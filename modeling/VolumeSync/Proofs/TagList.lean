import VolumeSync.Proofs.TextRuns
import VolumeSync.Tags

-- The laws of the tags. The user's tags are the trimmed text in pieces: put
-- together with commas they are the text again. The derived tags are the last
-- seven, whatever the user writes, so a user's tag that reads like a derived
-- one is never taken for it, and everything the tags were made of can be read
-- off them.

namespace VolumeSync

/-! ## The user's own tags -/

namespace Text

/-- Only a text of blanks has nothing left when it is trimmed. -/
theorem trimChars_eq_nil_iff {cs : List Char} : trimChars cs = [] ↔ AllBlank cs := by
  constructor
  · intro h
    obtain ⟨before, after, hbefore, hafter, hcs⟩ := exists_trimChars cs
    rw [h, List.nil_append] at hcs
    intro c hc
    rw [hcs] at hc
    exact (List.mem_append.mp hc).elim (hbefore c) (hafter c)
  · intro h
    have hstart : trimStart cs = [] := List.dropWhile_eq_nil_iff.mpr h
    unfold trimChars trimEnd
    rw [hstart]
    rfl

end Text

/-- No piece of a text that is cut at a character holds that character. -/
theorem not_mem_of_mem_splitOn {α : Type} [BEq α] [LawfulBEq α] {x : α} {cs piece : List α}
    (h : piece ∈ cs.splitOn x) : x ∉ piece := by
  induction cs generalizing piece with
  | nil =>
    rw [List.splitOn_nil, List.mem_singleton] at h
    rw [h]
    exact List.not_mem_nil
  | cons c cs ih =>
    obtain ⟨first, rest, hsplit⟩ := List.exists_cons_of_ne_nil (List.splitOn_ne_nil x cs)
    rw [List.splitOn_cons_eq_if_modifyHead] at h
    rw [hsplit] at h ih
    split at h
    · rcases List.mem_cons.mp h with rfl | h
      · exact List.not_mem_nil
      · exact ih h
    · rename_i hc
      rw [List.modifyHead_cons] at h
      rcases List.mem_cons.mp h with rfl | h
      · intro hx
        rcases List.mem_cons.mp hx with rfl | hx
        · exact hc BEq.rfl
        · exact ih List.mem_cons_self hx
      · exact ih (List.mem_cons_of_mem _ h)

theorem userTags_eq_nil_iff (text : String) :
    userTags text = [] ↔ Text.AllBlank text.toList := by
  rw [← Text.trimChars_eq_nil_iff]
  unfold userTags
  split
  · rename_i hnil
    exact iff_of_true rfl hnil
  · rename_i hne
    refine iff_of_false ?_ hne
    rw [List.map_eq_nil_iff]
    exact List.splitOn_ne_nil _ _

/-- Put together with commas, the user's tags are the trimmed text. -/
theorem intercalate_userTags (text : String) :
    String.intercalate "," (userTags text) = Text.trim text := by
  have hcomma : ",".toList = [','] := rfl
  unfold userTags Text.trim
  split
  · rename_i hnil
    rw [hnil, String.intercalate_nil, String.ofList_nil]
  · rw [← String.toList_inj, String.toList_intercalate, List.map_map, hcomma, String.toList_ofList]
    simp only [Function.comp_def, String.toList_ofList, List.map_id']
    exact List.intercalate_splitOn ','

theorem comma_not_mem_userTags {text tag : String} (h : tag ∈ userTags text) :
    ',' ∉ tag.toList := by
  unfold userTags at h
  split at h
  · cases h
  · obtain ⟨piece, hpiece, rfl⟩ := List.mem_map.mp h
    rw [String.toList_ofList]
    exact not_mem_of_mem_splitOn hpiece

/-- Two texts are cut into the same tags only if they are the same when they
are trimmed. A text of blanks, which has no tag, is not mixed up with another:
every other text has one. -/
theorem userTags_inj {a b : String} : userTags a = userTags b ↔ Text.trim a = Text.trim b := by
  constructor
  · intro h
    rw [← intercalate_userTags, ← intercalate_userTags, h]
  · intro h
    have hchars : Text.trimChars a.toList = Text.trimChars b.toList := by
      rw [← Text.toList_trim, ← Text.toList_trim, h]
    unfold userTags
    rw [hchars]

/-! ## All tags -/

/-- What the tags of a volume are made of. -/
structure TagSource where
  /-- The user's tags as they are written, trimmed. -/
  userText : String
  clusterId : String
  reclaimPolicy : String
  storageClass : String
  claimNamespace : String
  claimName : String
  volume : String
  provisioner : String

/-- What the tags of the volume are made of, absent parts as empty texts. -/
def Snapshot.tagSource (s : Snapshot) (provisioner : String) : TagSource where
  userText := Text.trim (s.attr tagsKey)
  clusterId := s.attr clusterKey
  reclaimPolicy := s.reclaimPolicy
  storageClass := s.storageClass
  claimNamespace := s.claimNamespace
  claimName := s.claimName
  volume := s.name
  provisioner := provisioner

theorem derivedTags_inj {s t : Snapshot} {p q : String} :
    derivedTags s p = derivedTags t q ↔
      s.attr Snapshot.clusterKey = t.attr Snapshot.clusterKey ∧
      s.reclaimPolicy = t.reclaimPolicy ∧ s.storageClass = t.storageClass ∧
      s.claimNamespace = t.claimNamespace ∧ s.claimName = t.claimName ∧ s.name = t.name ∧
      p = q := by
  unfold derivedTags
  simp only [List.cons.injEq, String.append_right_inj, and_true]

/-- The place of a tag tells a derived one from the user's: the last seven
are derived. -/
theorem Snapshot.tags_inj {s t : Snapshot} {p q : String} :
    s.tags p = t.tags q ↔ s.tagSource p = t.tagSource q := by
  have hparts : s.tags p = t.tags q ↔
      userTags (s.attr tagsKey) = userTags (t.attr tagsKey) ∧
        derivedTags s p = derivedTags t q := by
    unfold tags
    constructor
    · intro h
      exact List.append_inj' h (by rw [length_derivedTags, length_derivedTags])
    · rintro ⟨huser, hderived⟩
      rw [huser, hderived]
  rw [hparts, userTags_inj, derivedTags_inj]
  unfold tagSource
  simp only [TagSource.mk.injEq]

/-! ## The law -/

/-- The tags of a volume are the user's, which are none for a text of blanks
and otherwise are the trimmed text in pieces without a comma, and behind them
the seven derived tags in their order. Two lists of tags are the same exactly
if all that they were made of is the same, whatever characters it holds. -/
theorem tags_lose_nothing_and_cannot_be_forged :
    (∀ (s : Snapshot) (provisioner : String), ∃ own : List String,
      s.tags provisioner = own ++
        ["clusterID:" ++ s.attr "clusterID", "reclaimpolicy:" ++ s.reclaimPolicy,
          "storageclass:" ++ s.storageClass, "namespace:" ++ s.claimNamespace,
          "pvc:" ++ s.claimName, "pv:" ++ s.name, "provisioner:" ++ provisioner] ∧
      (own = [] ↔ Text.AllBlank (s.attr "tags").toList) ∧
      String.intercalate "," own = Text.trim (s.attr "tags") ∧
      ∀ tag ∈ own, ',' ∉ tag.toList) ∧
    ∀ (s t : Snapshot) (p q : String), s.tags p = t.tags q ↔ s.tagSource p = t.tagSource q := by
  refine ⟨fun s provisioner => ?_, fun s t p q => Snapshot.tags_inj⟩
  refine ⟨userTags (s.attr "tags"), rfl, userTags_eq_nil_iff _, intercalate_userTags _, ?_⟩
  intro tag htag
  exact comma_not_mem_userTags htag

/-- A user writes tags that read like derived ones, and an empty one between
them. They come back as they were written, and a volume that really has the
name that they give has other tags. -/
theorem forged_tags_are_told_apart :
    let forged : Snapshot := { Snapshot.blank with
      name := "a", attributes := .ofList [("tags", "\u3000pv:b,,provisioner:p ")] }
    (∃ own, String.intercalate "," own = "pv:b,,provisioner:p" ∧
      (∀ tag ∈ own, ',' ∉ tag.toList) ∧
      forged.tags "p" = own ++ ["clusterID:", "reclaimpolicy:", "storageclass:", "namespace:",
        "pvc:", "pv:a", "provisioner:p"]) ∧
    forged.tags "p" ≠ Snapshot.tags { forged with name := "b" } "p" := by
  intro forged
  obtain ⟨hparts, hinj⟩ := tags_lose_nothing_and_cannot_be_forged
  obtain ⟨own, htags, _, hown, hcomma⟩ := hparts forged "p"
  have htrim : Text.trim (forged.attr "tags") = "pv:b,,provisioner:p" := by decide
  refine ⟨⟨own, hown.trans htrim, hcomma, htags⟩, fun h => ?_⟩
  have hname := congrArg TagSource.volume ((hinj _ _ _ _).mp h)
  exact absurd hname (by decide)

end VolumeSync
