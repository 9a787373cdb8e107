import TagRules.Proofs.Rules.DirectBindings
import TagRules.Proofs.Rules.FinishedBindings

/-
  Lines that bind networks to an address.

  Such a line is the tag, the kind, the networks with commas between them and the address, as they
  are written, with colons between these four.  Networks and address may have colons of their own.
  But the last network ends in a slash and a length, so after a colon inside a network there is
  still a slash to come, and the text after it is no address (`Line.slash_mem_of_cut`).  The first
  colon that can divide networks and address is the one between them, and the line binds each
  network that was written (`RuleSet.ofLines_ranges`).
-/

namespace TagRules

open Net Text

namespace Line

/-- Networks with commas between them. -/
def writeRanges (nets : List Network) : List Char := List.intercalate [','] (nets.map Network.write)

/-- The line that binds networks for a tag. -/
def ofRanges (tag : String) (nets : List Network) (target : Address) : List Char :=
  tag.toList ++
    ':' :: (['c', 'i', 'd', 'r'] ++ ':' :: (writeRanges nets ++ ':' :: target.write))

variable {nets : List Network}

theorem comma_notMem_write (n : Network) : ',' ∉ n.write := by
  intro h
  rcases Network.of_mem_write h with (h | h | h) | h <;> cases h

theorem plain_of_mem_ranges {c : Char} (h : c ∈ writeRanges nets) :
    isBlank c = false ∧ c ≠ '#' := by
  rcases mem_intercalate h with h | ⟨word, hword, hc⟩
  · rw [List.mem_singleton.mp h]
    decide
  · obtain ⟨n, -, rfl⟩ := List.mem_map.mp hword
    exact ⟨Network.isBlank_of_mem_write hc, fun heq => n.sharp_notMem_write (heq ▸ hc)⟩

theorem exists_last_range (hne : nets ≠ []) :
    ∃ (front : List Char) (n : Network), writeRanges nets = front ++ n.write := by
  induction nets with
  | nil => exact absurd rfl hne
  | cons n rest ih =>
    cases rest with
    | nil => exact ⟨[], n, List.intercalate_singleton⟩
    | cons next rest =>
      obtain ⟨front, last, heq⟩ := ih (List.cons_ne_nil _ _)
      refine ⟨n.write ++ [','] ++ front, last, ?_⟩
      rw [List.append_assoc, ← heq]
      exact List.intercalate_cons_cons

/-- After a colon inside a network there is a slash. -/
theorem slash_mem_of_cut (hne : nets ≠ []) {before after : List Char}
    (h : writeRanges nets = before ++ ':' :: after) : '/' ∈ after := by
  obtain ⟨front, n, hlast⟩ := exists_last_range hne
  have hlength : ':' ∉ '/' :: digits 10 n.length := by
    rw [List.mem_cons, not_or]
    exact ⟨by decide, colon_notMem_digits (by decide) (by decide) n.length⟩
  have heq : (front ++ n.address.write) ++ '/' :: digits 10 n.length = before ++ ':' :: after := by
    rw [← h, hlast, List.append_assoc]
    rfl
  -- The colon is before the slash of the last network, since the length has none.
  rcases List.append_eq_append_iff.mp heq with ⟨more, -, hmore⟩ | ⟨more, -, hmore⟩
  · exact absurd (hmore ▸ by simp) hlength
  · cases more with
    | nil => cases hmore
    | cons c more =>
      rw [(List.cons.inj hmore).2]
      simp

theorem mapM_write (nets : List Network) :
    (nets.map Network.write).mapM Network.ofRule? = some (nets.map Network.truncate) := by
  induction nets with
  | nil => rfl
  | cons n rest ih =>
    rw [List.map_cons, List.mapM_cons, Network.ofRule?_write, ih]
    rfl

theorem readClients_ranges (hne : nets ≠ []) (target : Address) :
    readClients false (writeRanges nets) target =
      some (.ranges (nets.map Network.truncate) target) := by
  have hsplit : splitAll ',' (writeRanges nets) = nets.map Network.write := by
    refine splitAll_intercalate (by simpa using hne) fun word hword => ?_
    obtain ⟨n, -, rfl⟩ := List.mem_map.mp hword
    exact comma_notMem_write n
  unfold readClients
  rw [if_neg Bool.false_ne_true, hsplit, mapM_write]
  rfl

theorem readBinding?_ranges (hne : nets ≠ []) (target : Address) :
    readBinding? false (writeRanges nets ++ ':' :: target.write) =
      some (.ranges (nets.map Network.truncate) target) := by
  unfold readBinding?
  refine findSome?_cuts ?_ fun before after hcut => ?_
  · have htrim : trim (writeRanges nets) = writeRanges nets :=
      trim_of_no_blank fun c hc => (plain_of_mem_ranges hc).1
    simp [htrim, Address.trim_write, Address.ofChars?_write, readClients_ranges hne]
  · have hafter : ∀ c ∈ after, isBlank c = false ∧ c ≠ '#' := by
      intro c hc
      have hmem : c ∈ writeRanges nets := by simp [hcut, hc]
      exact plain_of_mem_ranges hmem
    have hplain : ∀ c ∈ after ++ ':' :: target.write, isBlank c = false :=
      fun c hc => (plain_fields hafter (plain_write target) c hc).1
    have hnone : Address.ofChars? (after ++ ':' :: target.write) = none :=
      Address.ofChars?_eq_none (List.mem_append_left _ (slash_mem_of_cut hne hcut))
    simp only [trim_of_no_blank hplain, hnone]
    rfl

section

variable {tag : String}

theorem strip_ofRanges (h : '#' ∉ tag.toList) (target : Address) :
    strip (ofRanges tag nets target) =
      trimStart tag.toList ++
        ':' :: (['c', 'i', 'd', 'r'] ++ ':' :: (writeRanges nets ++ ':' :: target.write)) := by
  have hkind : ∀ c ∈ ['c', 'i', 'd', 'r'], isBlank c = false ∧ c ≠ '#' := by
    intro c hc
    have hname : c = 'c' ∨ c = 'i' ∨ c = 'd' ∨ c = 'r' := by simpa using hc
    rcases hname with rfl | rfl | rfl | rfl <;> decide
  exact strip_tagged h
    (plain_fields hkind (plain_fields (fun _ => plain_of_mem_ranges) (plain_write target)))

theorem readClient_ofRanges (hnormal : Tag.normalize tag = tag) (hcolon : ':' ∉ tag.toList)
    (hsharp : '#' ∉ tag.toList) (hne : nets ≠ []) (target : Address) :
    readClient tag (strip (ofRanges tag nets target)) =
      entry (.ranges (nets.map Network.truncate) target) := by
  have hkind : kindName ['c', 'i', 'd', 'r'] = "cidr" := by decide +kernel
  rw [strip_ofRanges hsharp]
  refine readClient_tagged hnormal hcolon (by decide) (.inr hkind) ?_
  rw [hkind]
  exact readBinding?_ranges hne target

end

end Line

namespace ClientBindings

/-- The bindings of networks to one address, before they are finished. -/
def ofRanges (nets : List Network) (target : Address) : ClientBindings :=
  nets.foldl (fun b n => b.bindRange n target) empty

theorem ranges_foldl (nets : List Network) (target : Address) (b : ClientBindings) :
    (nets.foldl (fun b n => b.bindRange n target) b).ranges =
      nets.foldl NetworkRules.add b.ranges := by
  induction nets generalizing b with
  | nil => rfl
  | cons n rest ih => exact ih _

theorem toList_ofRanges (nets : List Network) (target : Address) :
    (ofRanges nets target).ranges.toList = nets.map Network.truncate := by
  unfold ofRanges
  rw [ranges_foldl, NetworkRules.toList_foldl]
  rfl

theorem follows_ofRanges (nets : List Network) (target : Address) :
    Follows (nets.map fun n => .bindRange n target) (ofRanges nets target) := by
  have h := follows_run (nets.map fun n => .bindRange n target)
  unfold run at h
  rwa [List.foldl_map] at h

end ClientBindings

namespace RuleSet

open ClientBindings

/-- The line that binds networks for a tag is divided where it was put together.  It gives the table
of the tag what binding the networks one after the other and finishing gives, and as many are
skipped as different ones of them are strictly inside another. -/
theorem ofLines_ranges {tag : String} (hnormal : Tag.normalize tag = tag)
    (hcolon : ':' ∉ tag.toList) (hsharp : '#' ∉ tag.toList) {nets : List Network}
    (hne : nets ≠ []) (ht : AllTruncated nets) (target : Address) :
    Line.readClient tag (Line.strip (Line.ofRanges tag nets target)) =
        .entry (.ranges nets target) ∧
      ofLines .client tag [Line.ofRanges tag nets target] =
        (.client (ofRanges nets target).finish.1, (ofRanges nets target).finish.2) ∧
      (ofRanges nets target).finish.2 = (nested nets).length := by
  have hentry := Line.readClient_ofRanges hnormal hcolon hsharp hne target
  rw [ht.map_truncate] at hentry
  have hline : Line.strip (Line.ofRanges tag nets target) ≠ [] := by
    rw [Line.strip_ofRanges hsharp]
    simp
  refine ⟨hentry, ofLines_entry hline hentry, ?_⟩
  rw [(follows_ofRanges nets target).finish_count, toList_ofRanges, ht.map_truncate]

/-- Networks of both families, one of them twice and inside another. -/
theorem ofLines_ranges_nested :
    let inner : Network := ⟨⟨.v6, 0x20010DB8 * blockSize 96, by decide⟩, 48, by decide⟩
    let outer : Network := ⟨⟨.v6, 0x20010DB8 * blockSize 96, by decide⟩, 32, by decide⟩
    let other : Network := ⟨⟨.v4, 0x0A000000, by decide⟩, 8, by decide⟩
    let nets := [inner, other, outer, inner]
    let target : Address := ⟨.v6, 0x20014860 * blockSize 96 + 1, by decide⟩
    Tag.normalize "CN" = "CN" ∧ ':' ∉ "CN".toList ∧ '#' ∉ "CN".toList ∧ nets ≠ [] ∧
      AllTruncated nets ∧
      Line.ofRanges "CN" nets target =
        "CN:cidr:2001:db8::/48,10.0.0.0/8,2001:db8::/32,2001:db8::/48:2001:4860::1".toList ∧
      Line.readClient "CN" (Line.strip (Line.ofRanges "CN" nets target)) =
        .entry (.ranges nets target) ∧
      ofLines .client "CN" [Line.ofRanges "CN" nets target] =
        (.client (ofRanges nets target).finish.1, 1) ∧
      (nested nets).length = 1 := by
  intro inner outer other nets target
  have hnormal : Tag.normalize "CN" = "CN" := by decide +kernel
  have hcolon : ':' ∉ "CN".toList := by decide
  have hsharp : '#' ∉ "CN".toList := by decide
  have ht : AllTruncated nets := by
    unfold AllTruncated
    decide +kernel
  have hcount : (nested nets).length = 1 := by decide +kernel
  obtain ⟨hentry, hlines, hskipped⟩ :=
    ofLines_ranges hnormal hcolon hsharp (List.cons_ne_nil _ _) ht target
  rw [hskipped, hcount] at hlines
  exact ⟨hnormal, hcolon, hsharp, List.cons_ne_nil _ _, ht, by decide +kernel, hentry, hlines,
    hcount⟩

end RuleSet

end TagRules
