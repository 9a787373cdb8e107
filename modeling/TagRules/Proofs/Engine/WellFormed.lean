import TagRules.Proofs.Engine.Operations
import TagRules.Proofs.Rules.WellFormed

/-
  What every engine can rely on.

  An engine is `WellFormed` when every table is under its own tag in the index of its
  kind and has rules of that kind, and all rules that are searched are in order.  Nothing
  checks this while an engine runs; it follows from its past (`Course.Agrees`): rules come
  from lines or from lists and are sorted or finished last.

  `checkedAfter` is a question as it is put to an engine that stops at a search of networks
  that are not known to be sorted.  A well-formed engine never stops
  (`WellFormed.checkedAfter`), and has an address for every client in a network that is
  bound (`WellFormed.resolveClient_isSome`).

  `take_wellFormed` says all this of an engine that was begun empty or from options, after
  any operations.
-/

namespace TagRules.Engine

open Net

/-- Tables are filed and have rules of their kind, and rules that are searched are in order. -/
structure WellFormed (e : Engine) : Prop where
  filed : ∀ kind tag t, e.tables.get? kind tag = some t →
    t.tag = tag ∧ t.kind = kind ∧ t.rules.kind = kind
  rules : ∀ kind tag t, e.tables.get? kind tag = some t → t.rules.WellFormed
  geoIp : ∀ code set, e.geoIp.get? code = some set → set.Ordered

theorem Course.Agrees.wellFormed {c : Course} (hc : c.Agrees) : c.engine.WellFormed where
  filed kind tag t ht := by
    obtain ⟨hkind, htag⟩ := hc.tables.filed kind tag t ht
    have hrules := hc.tables.current kind tag t ht
    unfold Table.IsCurrent at hrules
    refine ⟨htag, hkind, ?_⟩
    rw [hrules, RuleSet.ofLines_kind, hkind]
  rules kind tag t ht := by
    have hrules := hc.tables.current kind tag t ht
    unfold Table.IsCurrent at hrules
    rw [hrules]
    exact RuleSet.ofLines_wellFormed _ _ _
  geoIp code set hset := by
    rw [hc.lists code] at hset
    obtain ⟨nets, -, rfl⟩ := Option.map_eq_some_iff.mp hset
    exact NetworkRules.ordered_ofList nets

/-! ## Questions with checks

Each function is the one it is named after, with searches that insist on sorted networks.  It gives
nothing if such a search gives nothing; what it does not search, it does not insist on. -/

/-- Whether there is something and it has a hit.  Where there is nothing, nothing is searched. -/
def checkedAny {α : Type} (x : Option α) (hit : α → Option Bool) : Option Bool :=
  match x with
  | none => some false
  | some a => hit a

def checkedGeoCovers (e : Engine) (tag : String) (n : Network) : Option Bool :=
  checkedAny (e.geoIp.get? tag) fun set => set.checkedCovers n

def checkedTableCovers (e : Engine) (tag : String) (n : Network) : Option Bool :=
  checkedAny (e.tables.get? .network tag) fun t => t.rules.checkedCovers n

/-- Whether the table covers the network or, if it does not, the geographic networks do. -/
def checkedBothCover (e : Engine) (tag : String) (n : Network) : Option Bool :=
  match e.checkedTableCovers tag n with
  | some false => e.checkedGeoCovers tag n
  | hit => hit

def checkedMatch (e : Engine) (kind : TableKind) (tag name : String) : Option Bool :=
  checkedAny (e.tables.get? kind tag) fun t => t.rules.checkedMatch name

def checkedResolveIn (rules : RuleSet) (client : String) : Option (Option Address) :=
  match rules with
  | .client bindings => bindings.checkedResolve client
  | .keyword _ | .domain _ | .network _ => some none

/-- The class of rules that a name matches; a later one is only looked at if the ones before it do
not match. -/
def checkedClassOf? (e : Engine) (tag name : String) : Option (Option CountClass) :=
  match e.checkedMatch .domain tag name with
  | none => none
  | some true => some (some .domain)
  | some false =>
    match e.checkedMatch .keyword tag name with
    | none => none
    | some true => some (some .keyword)
    | some false =>
      some (if (e.geoSite.get? tag).any fun set => set.matchesAny name then some .domain else none)

/-- Whether a name matches under a tag.  What is remembered is not searched. -/
def checkedCanonical (e : Engine) (now : Nat) (tag name : String) : Option (Bool × Engine) :=
  match e.remembered now tag name with
  | (some cls, e) => some (true, e.count cls tag)
  | (none, e) => (e.checkedClassOf? tag name).map fun
    | some cls => (true, (e.remember now tag name cls).count cls tag)
    | none => (false, e)

def checkedFirst (e : Engine) (now : Nat) (name : String) (reverse : Bool) :
    List String → Option (Bool × Engine)
  | [] => some (false, e)
  | tag :: rest =>
    let tag := Tag.normalize tag
    match e.checkedCanonical now tag name with
    | none => none
    | some (true, e) => some (true, e)
    | some (false, e) =>
      let e := if reverse then e.count .domain (missName tag) else e
      e.checkedFirst now name reverse rest

def checkedCount (e : Engine) (hit : Option Bool) (cls : CountClass) (tag : String) :
    Option Engine :=
  hit.map fun hit => (e.countIf hit cls tag).2

def checkedText (e : Engine) (text : String) (after : Network → Option Engine) : Option Engine :=
  match Network.ofRule? text.toList with
  | some n => after n
  | none => some e

/-- The engine after a question, if it came to an end.  It stops at the first search of networks
that are not known to be sorted. -/
def checkedAfter (e : Engine) : Query → Option Engine
  | .geoNetwork tag n =>
    e.checkedCount (e.checkedGeoCovers (Tag.normalize tag) n) .network (Tag.normalize tag)
  | .geoAddress tag a =>
    e.checkedCount (e.checkedGeoCovers (Tag.normalize tag) (Network.host a)) .network
      (Tag.normalize tag)
  | .tableNet tag n =>
    e.checkedCount (e.checkedTableCovers (Tag.normalize tag) n) .network (Tag.normalize tag)
  | .tableNetText tag text => e.checkedText text fun n =>
    e.checkedCount (e.checkedTableCovers (Tag.normalize tag) n) .network (Tag.normalize tag)
  | .net tag n =>
    e.checkedCount (e.checkedBothCover (Tag.normalize tag) n) .network (Tag.normalize tag)
  | .netText tag text => e.checkedText text fun n =>
    e.checkedCount (e.checkedBothCover (Tag.normalize tag) n) .network (Tag.normalize tag)
  | .site kind tag name => some (e.matchSite kind tag name).2
  | .keyword tag name =>
    e.checkedCount (e.checkedMatch .keyword (Tag.normalize tag) name) .keyword (Tag.normalize tag)
  | .client tag client =>
    match e.table? .client tag with
    | none => some e
    | some t => (checkedResolveIn t.rules client).map fun
      | some _ => e.count .metrics clientMetric
      | none => e
  | .name now tag name => (e.checkedCanonical now (Tag.normalize tag) name).map Prod.snd
  | .tags now tags name reverse =>
    if tags.isEmpty then some e
    else (e.checkedFirst now name reverse tags).map Prod.snd

theorem checkedAny_eq {α : Type} {x : Option α} {hit : α → Option Bool} {p : α → Bool}
    (h : ∀ a, x = some a → hit a = some (p a)) : checkedAny x hit = some (x.any p) := by
  cases x with
  | none => rfl
  | some a => exact h a rfl

theorem checkedText_eq {e : Engine} {tag text : String} {after : Network → Option Engine}
    {query : Engine → String → Network → Bool × Engine}
    (h : ∀ n, after n = some (query e tag n).2) :
    e.checkedText text after = some (e.forNetText query tag text).2 := by
  unfold checkedText forNetText
  cases Network.ofRule? text.toList with
  | none => rfl
  | some n => exact h n

theorem resolveClient_eq (e : Engine) (tag client : String) :
    (e.resolveClient tag client).1 =
      (e.table? .client tag).bind fun t => resolveIn t.rules client := by
  unfold resolveClient
  split
  · next a h => exact h.symm
  · next h => exact h.symm

namespace WellFormed

variable {e : Engine}

theorem of_sameRules (h : e.WellFormed) {e' : Engine} (hsame : SameRules e e') :
    e'.WellFormed := by
  obtain ⟨_, _, _, rfl⟩ := hsame
  exact ⟨h.filed, h.rules, h.geoIp⟩

theorem checkedGeoCovers (h : e.WellFormed) (tag : String) (n : Network) :
    e.checkedGeoCovers tag n = some (e.geoCovers tag n) :=
  checkedAny_eq fun set hset => (h.geoIp tag set hset).checkedCovers n

theorem checkedTableCovers (h : e.WellFormed) (tag : String) (n : Network) :
    e.checkedTableCovers tag n = some (e.tableCovers tag n) :=
  checkedAny_eq fun t ht => (h.rules .network tag t ht).checkedCovers n

theorem checkedBothCover (h : e.WellFormed) (tag : String) (n : Network) :
    e.checkedBothCover tag n = some (e.tableCovers tag n || e.geoCovers tag n) := by
  unfold Engine.checkedBothCover
  rw [h.checkedTableCovers, h.checkedGeoCovers]
  cases e.tableCovers tag n <;> rfl

theorem checkedMatch (h : e.WellFormed) (kind : TableKind) (tag name : String) :
    e.checkedMatch kind tag name =
      some ((e.tables.get? kind tag).any fun t => t.isMatch name) :=
  checkedAny_eq fun t ht => (h.rules kind tag t ht).checkedMatch name

theorem checkedClassOf? (h : e.WellFormed) (tag name : String) :
    e.checkedClassOf? tag name = some (e.classOf? tag name) := by
  unfold Engine.checkedClassOf? classOf?
  rw [h.checkedMatch, h.checkedMatch]
  cases (e.tables.get? .domain tag).any fun t => t.isMatch name with
  | true => rfl
  | false => cases (e.tables.get? .keyword tag).any fun t => t.isMatch name <;> rfl

theorem checkedCanonical (h : e.WellFormed) (now : Nat) (tag name : String) :
    e.checkedCanonical now tag name = some (e.matchCanonical now tag name) := by
  have hlooked : SameRules e (e.remembered now tag name).2 := ⟨_, _, _, rfl⟩
  unfold Engine.checkedCanonical matchCanonical
  generalize e.remembered now tag name = looked at hlooked ⊢
  obtain ⟨_ | cls, e'⟩ := looked
  · dsimp only
    rw [(h.of_sameRules hlooked).checkedClassOf?]
    cases e'.classOf? tag name <;> rfl
  · rfl

/-- By induction on the tags.  A tag that does not match changes nothing that is searched. -/
theorem checkedFirst (h : e.WellFormed) (now : Nat) (name : String) (reverse : Bool)
    (tags : List String) :
    e.checkedFirst now name reverse tags = some (e.matchFirst now name reverse tags) := by
  induction tags generalizing e with
  | nil => rfl
  | cons tag rest ih =>
    have hasked := SameRules.matchCanonical e now (Tag.normalize tag) name
    unfold Engine.checkedFirst matchFirst
    dsimp only
    rw [h.checkedCanonical]
    generalize e.matchCanonical now (Tag.normalize tag) name = asked at hasked
    obtain ⟨_ | _, e'⟩ := asked
    · -- The rest is asked with what the question left, which has the same rules.
      have hcounted : SameRules e'
          (if reverse = true then e'.count .domain (missName (Tag.normalize tag)) else e') := by
        split
        · exact .count e' _ _
        · exact .refl e'
      exact ih (h.of_sameRules (hasked.trans hcounted))
    · rfl

theorem checkedAfter (h : e.WellFormed) (q : Query) :
    e.checkedAfter q = some (e.afterQuery q) := by
  cases q with
  | geoNetwork tag n => rw [Engine.checkedAfter, h.checkedGeoCovers]; rfl
  | geoAddress tag a => rw [Engine.checkedAfter, h.checkedGeoCovers]; rfl
  | tableNet tag n => rw [Engine.checkedAfter, h.checkedTableCovers]; rfl
  | tableNetText tag text =>
    refine checkedText_eq ?_
    intro n
    rw [h.checkedTableCovers]
    rfl
  | net tag n => rw [Engine.checkedAfter, h.checkedBothCover]; rfl
  | netText tag text =>
    refine checkedText_eq ?_
    intro n
    rw [h.checkedBothCover]
    rfl
  | site kind tag name => rfl
  | keyword tag name => rw [Engine.checkedAfter, h.checkedMatch]; rfl
  | client tag client =>
    rw [Engine.checkedAfter, afterQuery]
    unfold resolveClient
    cases ht : e.table? .client tag with
    | none => rfl
    | some t =>
      have hrules := h.rules .client _ t ht
      unfold checkedResolveIn resolveIn
      dsimp only [Option.bind_some]
      -- Only bindings are searched for a client.
      cases hset : t.rules with
      | keyword rules => rfl
      | domain rules => rfl
      | network rules => rfl
      | client bindings =>
        rw [hset] at hrules
        dsimp only
        rw [ClientBindings.Complete.checkedResolve hrules]
        cases bindings.resolve client <;> rfl
  | name now tag name => rw [Engine.checkedAfter, h.checkedCanonical]; rfl
  | tags now tags name reverse =>
    rw [Engine.checkedAfter, afterQuery]
    unfold matchTags
    split
    · rfl
    · rw [h.checkedFirst]
      rfl

/-- A client in a network that is bound under a tag always has an address to stand in for it. -/
theorem resolveClient_isSome (h : e.WellFormed) {tag client : String} {t : Table} {n : Network}
    (ht : e.table? .client tag = some t) (hclient : Network.ofRule? client.toList = some n)
    (hc : t.covers n = true) : (e.resolveClient tag client).1.isSome = true := by
  have hkind := (h.filed .client _ t ht).2.2
  have hrules := h.rules .client _ t ht
  rw [resolveClient_eq, ht, Option.bind_some]
  unfold Table.covers at hc
  cases hset : t.rules with
  | keyword rules => rw [hset] at hkind; cases hkind
  | domain rules => rw [hset] at hkind; cases hkind
  | network rules => rw [hset] at hkind; cases hkind
  | client bindings =>
    rw [hset] at hrules hc
    exact ClientBindings.Complete.resolve_isSome hrules hclient hc

end WellFormed

/-! ## After any operations -/

/-- How an engine comes about: empty, or as options describe it. -/
inductive Begun : Engine → Surroundings → Prop
  | empty (s : Surroundings) : Begun .empty s
  | options {o : Options} {s₀ s : Surroundings} {e : Engine} (h : ofOptions o s₀ = (.ok e, s)) :
    Begun e s

/-- What operations do to an engine has nothing to do with its history. -/
theorem Course.take_congr {c d : Course} (he : c.engine = d.engine)
    (hs : c.surroundings = d.surroundings) (ops : List Operation) :
    (c.take ops).engine = (d.take ops).engine ∧
      (c.take ops).surroundings = (d.take ops).surroundings := by
  induction ops generalizing c d with
  | nil => exact ⟨he, hs⟩
  | cons op rest ih =>
    obtain ⟨e, s, h⟩ := c
    obtain ⟨e', s', h'⟩ := d
    obtain rfl : e = e' := he
    obtain rfl : s = s' := hs
    refine ih (c := (Course.mk e s h).step op) (d := (Course.mk e s h').step op) ?_ ?_
    · cases op <;> rfl
    · cases op <;> rfl

theorem Begun.reached {e : Engine} {s : Surroundings} (h : Begun e s) :
    ∃ s₀ ops, ((Course.start s₀).take ops).engine = e ∧
      ((Course.start s₀).take ops).surroundings = s := by
  cases h with
  | empty => exact ⟨s, [], rfl, rfl⟩
  | options h => exact ⟨_, ofOptions_reached h⟩

/-- After any operations on an engine that was begun empty or from options, tables are filed under
their tags and kinds with rules of their kinds, and all rules that are searched are in order.  So
every question comes to an end with searches that insist on sorted networks, and leads where it
leads without them, and a client in a network that is bound has an address to stand in for it. -/
theorem take_wellFormed {e : Engine} {s : Surroundings} (h : Begun e s) (past : History)
    (ops : List Operation) :
    let after := ((Course.mk e s past).take ops).engine
    after.WellFormed ∧
      (∀ q, after.checkedAfter q = some (after.afterQuery q)) ∧
      ∀ tag client t n, after.table? .client tag = some t →
        Network.ofRule? client.toList = some n → t.covers n = true →
          (after.resolveClient tag client).1.isSome = true := by
  intro after
  have hafter : after.WellFormed := by
    -- The engine was reached by operations on an empty one, and these come after them.
    obtain ⟨s₀, before, he, hs⟩ := h.reached
    have hcourse := (Course.agrees_take s₀ (before ++ ops)).wellFormed
    rw [Course.take, List.foldl_append] at hcourse
    have hsame := Course.take_congr (c := ⟨e, s, past⟩) he.symm hs.symm ops
    rw [show after = _ from hsame.1]
    exact hcourse
  exact ⟨hafter, hafter.checkedAfter, fun tag client t n => hafter.resolveClient_isSome⟩

/-- Clients in a network that options bind. -/
theorem take_wellFormed_bound :
    let o := { Options.standard with
      tables := [⟨.client, ["cn"], "CN:cidr:10.0.0.0/8:192.0.2.1"⟩] }
    let s : Surroundings := ⟨.empty 0, .empty true⟩
    ∃ e s', ofOptions o s = (.ok e, s') ∧
      let after := ((Course.mk e s' .empty).take [.ask (.client "cn" "10.2.0.1")]).engine
      after.WellFormed ∧ (after.resolveClient "Cn" "10.1.0.0/24").1.isSome = true := by
  intro o s
  let e := (ofOptions o s).1.toOption.getD .empty
  have he : ofOptions o s = (.ok e, (ofOptions o s).2) := rfl
  refine ⟨e, (ofOptions o s).2, he, ?_⟩
  obtain ⟨hafter, -, hresolves⟩ :=
    take_wellFormed (.options he) .empty [.ask (.client "cn" "10.2.0.1")]
  refine ⟨hafter, ?_⟩
  have hbound : ((e.afterQuery (.client "cn" "10.2.0.1")).table? .client "Cn").any
      (fun t => (Network.ofRule? "10.1.0.0/24".toList).any t.covers) = true := by
    decide +kernel
  obtain ⟨t, ht, hnet⟩ := (Option.any_eq_true ..).mp hbound
  obtain ⟨n, hn, hc⟩ := (Option.any_eq_true ..).mp hnet
  exact hresolves "Cn" "10.1.0.0/24" t n ht hn hc

end TagRules.Engine
