import VolumeSync.Proofs.RequestPath

-- URLs of volumes as they are built, before anything reads them. What comes
-- behind the base is cut into the same three parts whatever the volume's name
-- is, and the name can be read back from its part, so that two updates below
-- one base share a URL only if they are the same update of the same volume.

namespace VolumeSync

namespace Text

/-- A control character: one of the 65 that Unicode counts as such. -/
def IsControl (c : Char) : Prop := c.toNat < 0x20 ∨ 0x7F ≤ c.toNat ∧ c.toNat < 0xA0

/-- The bytes of a text. -/
def utf8 (cs : List Char) : List UInt8 := cs.flatMap String.utf8EncodeChar

/-! ## Bytes of characters -/

theorem utf8EncodeChar_of_ascii {c : Char} (h : c.toNat ≤ 0x7F) :
    String.utf8EncodeChar c = [UInt8.ofNat c.toNat] := by
  unfold String.utf8EncodeChar
  exact if_pos h

theorem ofUInt8_ofNat {c : Char} (h : c.toNat ≤ 0x7F) : Char.ofUInt8 (UInt8.ofNat c.toNat) = c := by
  refine Char.toNat_inj.mp ?_
  have hbyte : (UInt8.ofNat c.toNat).toNat = c.toNat := by
    rw [UInt8.toNat_ofNat']
    exact Nat.mod_eq_of_lt (by omega)
  exact hbyte

/-- Beyond ASCII no byte of a character is an ASCII one. -/
theorem le_of_mem_utf8EncodeChar {c : Char} (h : 0x7F < c.toNat) {b : UInt8}
    (hb : b ∈ String.utf8EncodeChar c) : 0x80 ≤ b.toNat := by
  have hbyte : ∀ n : Nat, 0x80 ≤ n % 256 → 0x80 ≤ (UInt8.ofNat n).toNat := by
    intro n hn
    rwa [UInt8.toNat_ofNat']
  unfold String.utf8EncodeChar at hb
  dsimp only at hb
  rw [if_neg (show ¬ c.val.toNat ≤ 127 from Nat.not_le.mpr h)] at hb
  split at hb
  · simp only [List.mem_cons, List.not_mem_nil, or_false] at hb
    rcases hb with rfl | rfl <;> exact hbyte _ (by omega)
  split at hb
  · simp only [List.mem_cons, List.not_mem_nil, or_false] at hb
    rcases hb with rfl | rfl | rfl <;> exact hbyte _ (by omega)
  · simp only [List.mem_cons, List.not_mem_nil, or_false] at hb
    rcases hb with rfl | rfl | rfl | rfl <;> exact hbyte _ (by omega)

namespace Percent

/-! ## Encoding byte by byte -/

theorem le_of_isUnreserved {c : Char} (h : isUnreserved c = true) : c.toNat ≤ 0x7F := by
  have hprinting := Url.isPrinting_of_isUnreserved h
  simp only [Url.isPrinting, Bool.and_eq_true, decide_eq_true_eq] at hprinting
  omega

/-- A byte in an encoded text: a letter, a digit or one of the four marks
stands for itself. -/
def escape (b : UInt8) : List Char :=
  if isUnreserved (Char.ofUInt8 b) then [Char.ofUInt8 b] else byte b

theorem char_eq_flatMap_escape (c : Char) :
    char isUnreserved c = (String.utf8EncodeChar c).flatMap escape := by
  unfold char
  by_cases hascii : c.toNat ≤ 0x7F
  · rw [utf8EncodeChar_of_ascii hascii, List.flatMap_singleton, List.flatMap_singleton, escape,
      ofUInt8_ofNat hascii]
  · have hkeep : ¬ isUnreserved c = true := fun h => hascii (le_of_isUnreserved h)
    rw [if_neg hkeep]
    refine List.flatMap_congr fun b hb => ?_
    have hhigh := le_of_mem_utf8EncodeChar (Nat.not_le.mp hascii) hb
    refine (if_neg fun h => ?_).symm
    have hlow : b.toNat ≤ 0x7F := le_of_isUnreserved h
    omega

theorem encode_eq_flatMap_escape (cs : List Char) :
    encode isUnreserved cs = (utf8 cs).flatMap escape := by
  unfold encode utf8
  rw [List.flatMap_assoc]
  exact List.flatMap_congr fun c _ => char_eq_flatMap_escape c

/-! ## Reading back -/

theorem decodeBytes_cons_of_ne {b : UInt8} (h : b ≠ 0x25) (rest : List UInt8) :
    decodeBytes (b :: rest) = b :: decodeBytes rest := by
  rw [decodeBytes]
  rintro x y more rfl
  exact absurd rfl h

/-- A hexadecimal digit is one byte, and is read as what it stands for. -/
theorem exists_digit {n : Nat} (h : n < 16) : ∃ b : UInt8,
    String.utf8EncodeChar (upperHexDigit n) = [b] ∧ hexValue? (Char.ofUInt8 b) = some n := by
  have hdigits : ∀ m ∈ List.range 16, (upperHexDigit m).toNat ≤ 0x7F := by decide
  have hascii := hdigits n (List.mem_range.mpr h)
  refine ⟨_, utf8EncodeChar_of_ascii hascii, ?_⟩
  rw [ofUInt8_ofNat hascii]
  exact hexValue?_upperHexDigit h

theorem decodeBytes_byte (b : UInt8) (rest : List UInt8) :
    decodeBytes (utf8 (byte b) ++ rest) = b :: decodeBytes rest := by
  have hlt := b.toNat_lt
  obtain ⟨high, hhigh, hhighValue⟩ := exists_digit (show b.toNat / 16 < 16 by omega)
  obtain ⟨low, hlow, hlowValue⟩ := exists_digit (show b.toNat % 16 < 16 by omega)
  have hbytes : utf8 (byte b) = [0x25, high, low] := by
    unfold utf8 byte
    rw [List.flatMap_cons, List.flatMap_cons, List.flatMap_singleton, hhigh, hlow]
    rfl
  have hvalue : UInt8.ofNat (16 * (b.toNat / 16) + b.toNat % 16) = b := by
    rw [Nat.div_add_mod]
    exact UInt8.ofNat_toNat
  rw [hbytes]
  change decodeBytes (0x25 :: high :: low :: rest) = _
  rw [decodeBytes, hhighValue, hlowValue]
  exact congrArg (· :: decodeBytes rest) hvalue

theorem decodeBytes_escape (b : UInt8) (rest : List UInt8) :
    decodeBytes (utf8 (escape b) ++ rest) = b :: decodeBytes rest := by
  unfold escape
  split
  · rename_i hkeep
    have hascii := le_of_isUnreserved hkeep
    have hself : utf8 [Char.ofUInt8 b] = [b] := by
      unfold utf8
      rw [List.flatMap_singleton, utf8EncodeChar_of_ascii hascii]
      exact congrArg (fun x => [x]) UInt8.ofNat_toNat
    have hne : b ≠ 0x25 := by
      rintro rfl
      exact absurd hkeep (by decide)
    rw [hself]
    exact decodeBytes_cons_of_ne hne rest
  · exact decodeBytes_byte b rest

theorem decodeBytes_flatMap_escape (bs : List UInt8) :
    decodeBytes (utf8 (bs.flatMap escape)) = bs := by
  induction bs with
  | nil => rfl
  | cons b bs ih =>
    rw [List.flatMap_cons, utf8, List.flatMap_append]
    exact (decodeBytes_escape b _).trans (congrArg (b :: ·) ih)

theorem fromUTF8?_utf8 (cs : List Char) :
    String.fromUTF8? ⟨(utf8 cs).toArray⟩ = some (String.ofList cs) := by
  have hbytes : (⟨(utf8 cs).toArray⟩ : ByteArray) = cs.utf8Encode := by
    refine ByteArray.ext ?_
    exact List.data_toByteArray.symm
  rw [hbytes, String.fromUTF8?, dif_pos ByteArray.isValidUTF8_utf8Encode]
  refine congrArg some (String.toByteArray_inj.mp ?_)
  exact String.toByteArray_ofList.symm

/-- An encoded text is read back as what it was. -/
theorem decode?_encode (cs : List Char) : decode? (encode isUnreserved cs) = some cs := by
  unfold decode?
  have hbytes : decodeBytes ((encode isUnreserved cs).flatMap String.utf8EncodeChar) = utf8 cs := by
    rw [encode_eq_flatMap_escape]
    exact decodeBytes_flatMap_escape (utf8 cs)
  rw [hbytes, fromUTF8?_utf8, Option.map_some, String.toList_ofList]

end Percent

end Text

namespace Endpoint

/-! ## Bases -/

theorem trimSlashes_append_replicate (root : List Char) (n : Nat) :
    trimSlashes (root ++ List.replicate n '/') = trimSlashes root := by
  unfold trimSlashes
  rw [List.reverse_append, List.reverse_replicate, List.dropWhile_append_of_pos]
  intro c hc
  rw [List.eq_of_mem_replicate hc]
  rfl

/-- Only slashes are taken off a base, and none is left at its end. -/
theorem exists_slashes (cs : List Char) :
    (∃ n, cs = trimSlashes cs ++ List.replicate n '/') ∧ (trimSlashes cs).getLast? ≠ some '/' := by
  constructor
  · have hslashes : ∀ c ∈ cs.reverse.takeWhile (· == '/'), c = '/' := by
      intro c hc
      have hslash := List.mem_takeWhile_imp hc
      exact beq_iff_eq.mp hslash
    refine ⟨(cs.reverse.takeWhile (· == '/')).length, ?_⟩
    unfold trimSlashes
    rw [← List.reverse_replicate, ← List.eq_replicate_of_mem hslashes, ← List.reverse_append,
      List.takeWhile_append_dropWhile, List.reverse_reverse]
  · intro hlast
    unfold trimSlashes at hlast
    rw [List.getLast?_reverse] at hlast
    have hstop := List.head?_dropWhile_not (· == '/') cs.reverse
    rw [hlast] at hstop
    exact absurd hstop (by decide)

/-- The two differ in nothing but the slashes at their ends. -/
def SameButSlashes (base base' : String) : Prop :=
  ∃ (root : List Char) (m n : Nat), base.toList = root ++ List.replicate m '/' ∧
    base'.toList = root ++ List.replicate n '/'

theorem sameButSlashes_iff (base base' : String) :
    SameButSlashes base base' ↔ trimSlashes base.toList = trimSlashes base'.toList := by
  constructor
  · rintro ⟨root, m, n, hbase, hbase'⟩
    rw [hbase, hbase', trimSlashes_append_replicate, trimSlashes_append_replicate]
  · intro h
    obtain ⟨⟨m, hm⟩, _⟩ := exists_slashes base.toList
    obtain ⟨⟨n, hn⟩, _⟩ := exists_slashes base'.toList
    refine ⟨trimSlashes base.toList, m, n, hm, ?_⟩
    rw [h]
    exact hn

/-! ## The parts of a URL -/

/-- The volume's segment. -/
def segment (volumeId : String) : List Char :=
  Text.Percent.encode Text.Percent.isUnreserved volumeId.toList

theorem segment_inj {i j : String} : segment i = segment j ↔ i = j := by
  constructor
  · intro h
    have hread := congrArg Text.Percent.decode? h
    rw [segment, segment, Text.Percent.decode?_encode, Text.Percent.decode?_encode] at hread
    exact String.toList_inj.mp (Option.some.inj hread)
  · rintro rfl
    rfl

/-- The segment has no character that ends it or begins another part of a URL. -/
theorem plain_segment (volumeId : String) : ∀ c ∈ segment volumeId,
    c ≠ '/' ∧ c ≠ '?' ∧ c ≠ '#' ∧ c ≠ ' ' ∧ ¬ Text.IsControl c := by
  intro c hc
  obtain ⟨hprinting, _, hsharp, hmark⟩ := Url.ordinary_encode _ c hc
  simp only [Url.isPrinting, Bool.and_eq_true, decide_eq_true_eq] at hprinting
  refine ⟨(Url.slashFree_encode _ c hc).1, hmark, hsharp, ?_, ?_⟩
  · rintro rfl
    exact absurd hprinting.1 (by decide)
  · unfold Text.IsControl
    omega

theorem word_inj {kind kind' : UpdateKind} :
    kind.word.toList = kind'.word.toList ↔ kind = kind' := by
  cases kind with
  | metadata =>
    cases kind' with
    | metadata => decide
    | tags => decide
  | tags =>
    cases kind' with
    | metadata => decide
    | tags => decide

/-- The segment ends at the last slash, so that a URL is cut in one way only. -/
theorem volumePart_inj {kind kind' : UpdateKind} {i j : String} :
    volumePart kind i = volumePart kind' j ↔ i = j ∧ kind = kind' := by
  constructor
  · intro h
    have hsegment : ∀ k v, (volumePart k v).takeWhile (· != '/') = segment v := fun k v =>
      Text.takeWhile_append_of_stop (fun c hc => bne_iff_ne.mpr (plain_segment v c hc).1) (by simp)
    have hword : ∀ k v, (volumePart k v).dropWhile (· != '/') = '/' :: k.word.toList := fun k v =>
      Text.dropWhile_append_of_stop (fun c hc => bne_iff_ne.mpr (plain_segment v c hc).1) (by simp)
    constructor
    · exact segment_inj.mp (by rw [← hsegment kind i, h, hsegment])
    · have hkinds : '/' :: kind.word.toList = '/' :: kind'.word.toList := by
        rw [← hword kind i, h, hword]
      exact word_inj.mp (List.cons.inj hkinds).2
  · rintro ⟨rfl, rfl⟩
    rfl

theorem volumeUrl_inj {e e' : Endpoint} {kind kind' : UpdateKind} {i j : String}
    (hbase : e.base = e'.base) :
    e.volumeUrl kind i = e'.volumeUrl kind' j ↔ i = j ∧ kind = kind' := by
  rw [volumeUrl_eq, volumeUrl_eq, hbase, List.append_cancel_left_eq, List.append_cancel_left_eq,
    List.cons.injEq]
  simp only [true_and, volumePart_inj]

/-- Only the base makes a difference to the URLs of a provider. -/
theorem forall_volumeUrl_eq_iff (e e' : Endpoint) :
    (∀ kind i, e.volumeUrl kind i = e'.volumeUrl kind i) ↔ e.base = e'.base := by
  constructor
  · intro h
    have hsame := h .tags ""
    rw [volumeUrl_eq, volumeUrl_eq] at hsame
    exact List.append_cancel_right hsame
  · intro hbase kind i
    exact (volumeUrl_inj hbase).mpr ⟨rfl, rfl⟩

/-! ## The law -/

/-- The URL of an update is the base without its slashes at the end, the
collection, one segment for the volume, and the kind. The segment is the
volume's name with all bytes written as numbers but the unreserved ones, so
nothing in it ends it early, and it can be read back. Below one base a URL
stands for one kind of update of one volume; and the URLs are the same below
two bases exactly if these differ in the slashes at their ends alone. -/
theorem a_volume_url_stands_for_one_update (base : String) (token : Option String)
    (providerType : String) :
    let e := below base token providerType
    (∃ n, base.toList = e.base ++ List.replicate n '/') ∧ e.base.getLast? ≠ some '/' ∧
    (∀ kind i, ∃ segment : List Char,
      e.volumeUrl kind i = e.base ++ ("/volumes/".toList ++ (segment ++ '/' :: kind.word.toList)) ∧
      segment = (Text.utf8 i.toList).flatMap Text.Percent.escape ∧
      (∀ c ∈ segment, c ≠ '/' ∧ c ≠ '?' ∧ c ≠ '#' ∧ c ≠ ' ' ∧ ¬ Text.IsControl c) ∧
      Text.Percent.decode? segment = some i.toList) ∧
    (∀ kind kind' i j, e.volumeUrl kind i = e.volumeUrl kind' j ↔ i = j ∧ kind = kind') ∧
    ∀ (base' : String) (token' : Option String) (providerType' : String),
      SameButSlashes base base' ↔ ∀ kind i,
        e.volumeUrl kind i = (below base' token' providerType').volumeUrl kind i := by
  intro e
  obtain ⟨hslashes, hlast⟩ := exists_slashes base.toList
  refine ⟨hslashes, hlast, ?_, fun _ _ _ _ => volumeUrl_inj rfl, ?_⟩
  · intro kind i
    refine ⟨segment i, rfl, ?_, plain_segment i, ?_⟩
    · exact Text.Percent.encode_eq_flatMap_escape i.toList
    · exact Text.Percent.decode?_encode i.toList
  · intro base' token' providerType'
    rw [forall_volumeUrl_eq_iff, sameButSlashes_iff]
    rfl

/-- A name that looks encoded already, and one that is what it would stand for,
have URLs of their own below a base, however many slashes that ends in. -/
theorem a_name_that_looks_encoded_has_its_own_url :
    let e := below "http://h/v1/" none "p"
    e.volumeUrl .tags "a%2Fb" = "http://h/v1/volumes/a%252Fb/tags".toList ∧
    e.volumeUrl .tags "a%2Fb" ≠ e.volumeUrl .tags "a/b" ∧
    e.volumeUrl .tags "é" = (below "http://h/v1///" (some "t") "q").volumeUrl .tags "é" ∧
    ∃ segment : List Char, segment = (Text.utf8 "é".toList).flatMap Text.Percent.escape ∧
      'C' ∈ segment ∧ ¬ Text.IsControl 'C' := by
  intro e
  obtain ⟨_, _, hparts, hsame, hbases⟩ := a_volume_url_stands_for_one_update "http://h/v1/" none "p"
  refine ⟨by decide, ?_, ?_, ?_⟩
  · intro h
    exact absurd ((hsame _ _ _ _).mp h).1 (by decide)
  · exact (hbases "http://h/v1///" (some "t") "q").mp ⟨"http://h/v1".toList, 1, 3, rfl, rfl⟩ .tags
      "é"
  · obtain ⟨segment, _, hsegment, hplain, _⟩ := hparts .tags "é"
    have hmem : 'C' ∈ segment := by
      rw [hsegment]
      decide
    exact ⟨segment, hsegment, hmem, (hplain 'C' hmem).2.2.2.2⟩

end Endpoint

end VolumeSync
