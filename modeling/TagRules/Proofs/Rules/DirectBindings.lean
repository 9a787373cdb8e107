import Mathlib.Data.List.DropRight
import TagRules.Proofs.Net.AddressPairs
import TagRules.Proofs.Rules.ClientBindings
import TagRules.Proofs.Rules.ForeignLines

/-
  Lines that bind one client to an address.

  Such a line is the tag, the kind, the client and the address, as they are written, with
  colons between them.  The first colon that divides the last two fields into addresses counts
  (`readBinding?_of_firstSplit`), so the line is always an entry for its tag, and the table has
  one binding and skips nothing.  It is the one that was written, unless some of the last groups
  of the client can be read as the first of the address (`RuleSet.ofLines_binding`).
-/

namespace TagRules

open Net Text

namespace Line

/-- The line that binds a client for a tag. -/
def ofBinding (tag : String) (client target : Address) : List Char :=
  tag.toList ++ ':' :: (['i', 'p'] ++ ':' :: (client.write ++ ':' :: target.write))

/-- What divides the text into a client and an address is the first colon that does. -/
theorem readBinding?_of_firstSplit {cs : List Char} {client target : Address}
    (h : Address.FirstSplit cs client target) (hplain : ∀ c ∈ cs, isBlank c = false) :
    readBinding? true cs = some (.address client target) := by
  cases h with
  | @mk left right _ _ hleft hright hearlier =>
    have hparts : ∀ before after, left ++ ':' :: right = before ++ ':' :: after →
        trim before = before ∧ trim after = after := by
      intro before after heq
      rw [heq] at hplain
      exact ⟨trim_of_no_blank fun c hc => hplain c (by simp [hc]),
        trim_of_no_blank fun c hc => hplain c (by simp [hc])⟩
    unfold readBinding?
    -- No cut before this one gives a binding, for one side of it is no address.
    refine findSome?_cuts ?_ fun before after hcut => ?_
    · obtain ⟨htrim, htrim'⟩ := hparts left right rfl
      simp [htrim, htrim', hleft, hright, readClients]
    · obtain ⟨htrim, htrim'⟩ := hparts before (after ++ ':' :: right) (by simp [hcut])
      simp only [htrim, htrim', readClients, if_true]
      rcases hearlier before after hcut with hnone | hnone
      · rw [hnone]
        cases Address.ofChars? (after ++ ':' :: right) <;> rfl
      · rw [hnone]
        rfl

section

variable {tag : String}

theorem spells_trimStart (h : Tag.normalize tag = tag) :
    Tag.spells tag (trimStart tag.toList) = true := by
  unfold Tag.spells Tag.canonical trim
  rw [show trimStart (trimStart tag.toList) = trimStart tag.toList from
    List.dropWhile_idempotent isBlank _,
    beq_iff_eq]
  exact h

theorem strip_tagged (h : '#' ∉ tag.toList) {rest : List Char}
    (hrest : ∀ c ∈ rest, isBlank c = false ∧ c ≠ '#') :
    strip (tag.toList ++ ':' :: rest) = trimStart tag.toList ++ ':' :: rest := by
  have hplain : '#' ∉ tag.toList ++ ':' :: rest := by
    intro hc
    rcases List.mem_append.mp hc with hc | hc
    · exact h hc
    · rcases List.mem_cons.mp hc with hc | hc
      · cases hc
      · exact (hrest '#' hc).2 rfl
  rw [strip_eq_trim hplain]
  exact trim_append rfl (fun c hc => (hrest c hc).1) tag.toList

theorem readClient_tagged (hnormal : Tag.normalize tag = tag) (hcolon : ':' ∉ tag.toList)
    {kind rest : List Char} (hkind : ':' ∉ kind) {binding : Binding}
    (hname : kindName kind = "ip" ∨ kindName kind = "cidr")
    (hbinding : readBinding? (kindName kind == "ip") rest = some binding) :
    readClient tag (trimStart tag.toList ++ ':' :: (kind ++ ':' :: rest)) = entry binding := by
  have howner : ':' ∉ trimStart tag.toList := fun hc =>
    hcolon ((List.dropWhile_sublist isBlank).subset hc)
  have hknown : (kindName kind != "ip" && kindName kind != "cidr") = false := by
    rcases hname with hname | hname <;> rw [hname] <;> rfl
  unfold readClient
  rw [fields?_append howner, cut?_append hkind]
  simp [hknown, hbinding, spells_trimStart hnormal]

variable {client target : Address}

theorem plain_of_isAddressChar {c : Char} (h : IsAddressChar c) : isBlank c = false ∧ c ≠ '#' := by
  refine ⟨isBlank_of_isAddressChar h, ?_⟩
  rintro rfl
  rcases h with h | h | h <;> cases h

theorem plain_write (a : Address) : ∀ c ∈ a.write, isBlank c = false ∧ c ≠ '#' :=
  fun _ hc => plain_of_isAddressChar (Address.isAddressChar_write hc)

theorem plain_fields {left right : List Char} (hleft : ∀ c ∈ left, isBlank c = false ∧ c ≠ '#')
    (hright : ∀ c ∈ right, isBlank c = false ∧ c ≠ '#') :
    ∀ c ∈ left ++ ':' :: right, isBlank c = false ∧ c ≠ '#' := by
  intro c hc
  rcases List.mem_append.mp hc with hc | hc
  · exact hleft c hc
  rcases List.mem_cons.mp hc with rfl | hc
  · decide
  · exact hright c hc

theorem strip_ofBinding (h : '#' ∉ tag.toList) (client target : Address) :
    strip (ofBinding tag client target) =
      trimStart tag.toList ++
        ':' :: (['i', 'p'] ++ ':' :: (client.write ++ ':' :: target.write)) := by
  have hkind : ∀ c ∈ ['i', 'p'], isBlank c = false ∧ c ≠ '#' := by
    intro c hc
    have hname : c = 'i' ∨ c = 'p' := by simpa using hc
    rcases hname with rfl | rfl <;> decide
  exact strip_tagged h (plain_fields hkind (plain_fields (plain_write client) (plain_write target)))

theorem readClient_ofBinding (hnormal : Tag.normalize tag = tag) (hcolon : ':' ∉ tag.toList)
    (hsharp : '#' ∉ tag.toList) {c t : Address}
    (h : Address.FirstSplit (client.write ++ ':' :: target.write) c t) :
    readClient tag (strip (ofBinding tag client target)) = entry (.address c t) := by
  have hkind : kindName ['i', 'p'] = "ip" := by decide +kernel
  rw [strip_ofBinding hsharp]
  refine readClient_tagged hnormal hcolon (by decide) (.inl hkind) ?_
  rw [hkind]
  exact readBinding?_of_firstSplit h fun d hd =>
    (plain_fields (plain_write client) (plain_write target) d hd).1

end

end Line

namespace ClientBindings

/-- The bindings of one client. -/
def one (client target : Address) : ClientBindings :=
  ⟨(∅ : Std.ExtTreeMap String Address).insert (toString client) target, NetworkRules.empty⟩

theorem insert_empty (client target : Address) :
    empty.insert (.address client target) = one client target := by
  have hname : String.ofList (trim (toString client).toList) = toString client :=
    ClientName.key_ofAddress client
  show empty.bindAddress (toString client) target = one client target
  unfold bindAddress one
  rw [hname]
  rfl

theorem finish_one (client target : Address) :
    (one client target).finish = (one client target, 0) := rfl

theorem client_eq_of_one {client client' target target' : Address}
    (h : one client target = one client' target') : client = client' := by
  have hget := congrArg (fun b => b.targets[toString client]?) h
  unfold one at hget
  dsimp only at hget
  rw [Std.ExtTreeMap.getElem?_insert_self, Std.ExtTreeMap.getElem?_insert] at hget
  split at hget
  · next heq => exact (Address.toString_inj.mp (Std.compare_eq_iff_eq.mp heq)).symm
  · rw [Std.ExtTreeMap.getElem?_empty] at hget
    cases hget

theorem resolve_one (client target : Address) :
    (one client target).resolve (toString client) = some target := by
  unfold resolve one
  rw [Std.ExtTreeMap.getElem?_insert_self, Option.some_or]

end ClientBindings

namespace RuleSet

theorem ofLines_entry {tag : String} {line : List Char} {binding : Line.Binding}
    (hne : Line.strip line ≠ [])
    (h : Line.readClient tag (Line.strip line) = .entry binding) :
    ofLines .client tag [line] =
      (.client (ClientBindings.empty.insert binding).finish.1,
        (ClientBindings.empty.insert binding).finish.2) := by
  have hentries : Line.entries [.entry binding] = [binding] := rfl
  have hskipped : Line.skipped [.entry binding] = 0 := rfl
  unfold ofLines
  simp only [Line.readAll_single hne, h, hentries, hskipped, List.foldl_cons, List.foldl_nil,
    Nat.zero_add]

theorem ofLines_one {tag : String} {line : List Char} {client target : Address}
    (hne : Line.strip line ≠ [])
    (h : Line.readClient tag (Line.strip line) = .entry (.address client target)) :
    ofLines .client tag [line] = (.client (ClientBindings.one client target), 0) := by
  rw [ofLines_entry hne h, ClientBindings.insert_empty, ClientBindings.finish_one]

/-- The line that binds a client for a tag is never skipped, and gives the table of the tag exactly
one binding, by which its client is resolved.  It is the one that was written, unless the client
is written with two groups or more after `::` and the address with `::` after its first group:
then some of these groups go over, and another client is bound. -/
theorem ofLines_binding {tag : String} (hnormal : Tag.normalize tag = tag)
    (hcolon : ':' ∉ tag.toList) (hsharp : '#' ∉ tag.toList) (client target : Address) :
    let goesOver := client.EndsInGroups ∧ target.ElidesLater
    let read := if goesOver then client.moved target else (client, target)
    ofLines .client tag [Line.ofBinding tag client target] =
        (.client (ClientBindings.one read.1 read.2), 0) ∧
      (ClientBindings.one read.1 read.2).resolve (toString read.1) = some read.2 ∧
      (goesOver → read.1 ≠ client) := by
  intro goesOver read
  have hne : Line.strip (Line.ofBinding tag client target) ≠ [] := by
    rw [Line.strip_ofBinding hsharp]
    simp
  have hentry := Line.readClient_ofBinding hnormal hcolon hsharp
    (Address.firstSplit_write client target)
  refine ⟨ofLines_one hne hentry, ClientBindings.resolve_one read.1 read.2, fun h => ?_⟩
  rw [show read = client.moved target from if_pos h]
  exact Address.moved_ne h.1 h.2

/-- Both addresses are written with `::`, and the client with one group after it. -/
theorem ofLines_binding_one_group :
    let client : Address := ⟨.v6, 0x20010DB8 * blockSize 96 + 1, by decide⟩
    let target : Address := ⟨.v6, 0x20014860 * blockSize 96 + 1, by decide⟩
    Tag.normalize "CN" = "CN" ∧ ':' ∉ "CN".toList ∧ '#' ∉ "CN".toList ∧
      Line.ofBinding "CN" client target = "CN:ip:2001:db8::1:2001:4860::1".toList ∧
      ofLines .client "CN" [Line.ofBinding "CN" client target] =
        (.client (ClientBindings.one client target), 0) ∧
      (ClientBindings.one client target).resolve (toString client) = some target := by
  intro client target
  have hnormal : Tag.normalize "CN" = "CN" := by decide +kernel
  have hcolon : ':' ∉ "CN".toList := by decide
  have hsharp : '#' ∉ "CN".toList := by decide
  have hstays : ¬(client.EndsInGroups ∧ target.ElidesLater) := by decide +kernel
  obtain ⟨hlines, hresolve, -⟩ := ofLines_binding hnormal hcolon hsharp client target
  simp only [if_neg hstays] at hlines hresolve
  exact ⟨hnormal, hcolon, hsharp, by decide +kernel, hlines, hresolve⟩

/-- The exception occurs: the line that binds `2001:db8::1:2` to `2001:4860::1` binds
`2001:db8::1` to `2:2001:4860::1`. -/
theorem not_ofLines_binding_given :
    ¬∀ tag : String, Tag.normalize tag = tag → ':' ∉ tag.toList → '#' ∉ tag.toList →
      ∀ client target : Address,
        ofLines .client tag [Line.ofBinding tag client target] =
            (.client (ClientBindings.one client target), 0) ∧
          (ClientBindings.one client target).resolve (toString client) = some target := by
  intro hall
  let client : Address := ⟨.v6, 0x20010DB8 * blockSize 96 + 0x10002, by decide⟩
  let target : Address := ⟨.v6, 0x20014860 * blockSize 96 + 1, by decide⟩
  have hnormal : Tag.normalize "CN" = "CN" := by decide +kernel
  have hcase : client.EndsInGroups ∧ target.ElidesLater := by decide +kernel
  have hentry := Line.readClient_ofBinding hnormal (by decide) (by decide)
    (Address.firstSplit_moved hcase.1 hcase.2)
  have hne : Line.strip (Line.ofBinding "CN" client target) ≠ [] := by
    rw [Line.strip_ofBinding (by decide)]
    simp
  have hgiven := (hall "CN" hnormal (by decide) (by decide) client target).1
  rw [ofLines_one hne hentry] at hgiven
  have hbindings := RuleSet.client.inj (congrArg Prod.fst hgiven)
  exact Address.moved_ne hcase.1 hcase.2 (ClientBindings.client_eq_of_one hbindings)

end RuleSet

end TagRules
