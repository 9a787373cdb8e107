import TagRules.Engine.Query
import TagRules.Engine.Startup
import TagRules.Engine.Timetable
import TagRules.Proofs.Engine.Memory
import TagRules.Proofs.Engine.NetworkAnswers
import TagRules.Proofs.Rules.ClientBindings
import TagRules.Proofs.Rules.TaggedNetworks
import TagRules.Proofs.Rules.Union
import TagRules.Proofs.Table.RemoteBodies
import TagRules.Proofs.Geo.Rewriting
import TagRules.Proofs.Geo.Refresh
import TagRules.Proofs.Geo.Catalogs
import TagRules.Proofs.Rules.CanonicalForm
import TagRules.Proofs.Table.FailedCalls
import TagRules.Proofs.Table.FileVersions
import TagRules.Proofs.Engine.StaleMatches
import TagRules.Proofs.Engine.WellFormed
import TagRules.Proofs.Engine.Passes
import TagRules.Proofs.Engine.GeoRebuilds
import TagRules.Proofs.Rules.ForeignLines
import TagRules.Proofs.Engine.CurrentCatalog
import TagRules.Proofs.Net.GroupsBefore
import TagRules.Proofs.Net.AddressPairs
import TagRules.Proofs.Rules.DirectBindings
import TagRules.Proofs.Rules.FinishedBindings
import TagRules.Proofs.Rules.RangeBindings
import TagRules.Proofs.Rules.ClientSpellings
import TagRules.Proofs.Engine.ReverseQueries
import TagRules.Proofs.Geo.Freshness
import TagRules.Proofs.Engine.Recency
import TagRules.Proofs.Engine.OwnNames
import TagRules.Proofs.Rules.ListedNetworks
import TagRules.Proofs.Geo.DecodedNetworks
import TagRules.Proofs.Engine.DeclaredSources
import TagRules.Proofs.Geo.Independence
import TagRules.Proofs.Declaration.WrittenForm
import TagRules.Proofs.Engine.DeclaredTables
import TagRules.Proofs.Engine.RefusedOptions
import TagRules.Proofs.Net.BlockOrder
import TagRules.Proofs.Engine.CounterHistory
import TagRules.Proofs.Engine.Accounting
import TagRules.Proofs.Engine.Charges
import TagRules.Proofs.Text.Capitals
import TagRules.Proofs.Engine.Spellings
