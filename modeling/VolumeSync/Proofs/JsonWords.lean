import VolumeSync.Json.Reader

-- The words of a value, and the reading of words. A value is read from its own
-- words whatever is open around it and whatever words come after it, since a
-- value inside another one is not the end of the text.

namespace VolumeSync.Json

/-! ## Values as words -/

mutual

/-- The words that the value is written in. -/
def tokens : Json → List Token
  | .str value => [.str value]
  | .list items => .openList :: (itemTokens items ++ [.closeList])
  | .object members => .openObject :: (memberTokens members ++ [.closeObject])
  | value => [.plain value]

/-- The words of values, commas between them. -/
def itemTokens : List Json → List Token
  | [] => []
  | value :: rest => tokens value ++ itemTokensAfter rest

/-- The words of values, a comma before each. -/
def itemTokensAfter : List Json → List Token
  | [] => []
  | value :: rest => .comma :: (tokens value ++ itemTokensAfter rest)

/-- The words of members, commas between them. -/
def memberTokens : List (Literal × Json) → List Token
  | [] => []
  | (key, value) :: rest => .str key :: .colon :: (tokens value ++ memberTokensAfter rest)

/-- The words of members, a comma before each. -/
def memberTokensAfter : List (Literal × Json) → List Token
  | [] => []
  | (key, value) :: rest =>
    .comma :: .str key :: .colon :: (tokens value ++ memberTokensAfter rest)

end

/-! ## Words into values -/

/-- The words of the value are read as the value, which then belongs to
what is open. -/
def Reads (value : Json) : Prop :=
  ∀ (frames : List Frame) (rest : List Token),
    Reader.run? ⟨.value, frames⟩ (value.tokens ++ rest) =
      (complete? value frames).bind (Reader.run? · rest)

/-- No value begins with the end of a list. -/
theorem run?_item (value : Json) (frames : List Frame) (rest : List Token) :
    Reader.run? ⟨.item, frames⟩ (value.tokens ++ rest) =
      Reader.run? ⟨.value, frames⟩ (value.tokens ++ rest) := by
  cases value <;> rfl

theorem run?_itemsAfter {items : List Json} (h : ∀ item ∈ items, Reads item) (past : List Json)
    (frames : List Frame) (rest : List Token) :
    Reader.run? ⟨.next, .list past :: frames⟩ (itemTokensAfter items ++ .closeList :: rest) =
      (complete? (.list (past.reverse ++ items)) frames).bind (Reader.run? · rest) := by
  -- The open list holds what has been read of it, the last item first.
  induction items generalizing past with
  | nil =>
    simp only [itemTokensAfter, List.nil_append, Reader.run?, Reader.take?, close?,
      List.append_nil]
    rcases complete? (.list past.reverse) frames with _ | r
    · rfl
    · rfl
  | cons item items ih =>
    have hitem := h item List.mem_cons_self
    have hitems := ih (fun x hx => h x (List.mem_cons_of_mem _ hx)) (item :: past)
    simp only [itemTokensAfter, List.cons_append, List.append_assoc, Reader.run?, Reader.take?]
    rw [hitem]
    simp only [complete?, Option.bind_some, hitems, List.reverse_cons, List.append_assoc,
      List.singleton_append]

theorem run?_membersAfter {members : List (Literal × Json)}
    (h : ∀ member ∈ members, Reads member.2) (past : List (Literal × Json)) (frames : List Frame)
    (rest : List Token) :
    Reader.run? ⟨.next, .object past :: frames⟩
        (memberTokensAfter members ++ .closeObject :: rest) =
      (complete? (.object (past.reverse ++ members)) frames).bind (Reader.run? · rest) := by
  induction members generalizing past with
  | nil =>
    simp only [memberTokensAfter, List.nil_append, Reader.run?, Reader.take?, close?,
      List.append_nil]
    rcases complete? (.object past.reverse) frames with _ | r
    · rfl
    · rfl
  | cons member members ih =>
    obtain ⟨key, value⟩ := member
    have hvalue := h (key, value) List.mem_cons_self
    have hmembers := ih (fun x hx => h x (List.mem_cons_of_mem _ hx)) ((key, value) :: past)
    simp only [memberTokensAfter, List.cons_append, List.append_assoc, Reader.run?, Reader.take?,
      key?]
    rw [hvalue]
    simp only [complete?, Option.bind_some, hmembers, List.reverse_cons, List.append_assoc,
      List.singleton_append]

theorem reads_list {items : List Json} (h : ∀ item ∈ items, Reads item) : Reads (.list items) := by
  intro frames rest
  rcases items with _ | ⟨item, items⟩
  · simp only [tokens, itemTokens, List.nil_append, Reader.run?, Reader.take?,
      begin?, close?, List.reverse_nil, List.cons_append]
    rcases complete? (.list []) frames with _ | r
    · rfl
    · rfl
  · have hitem := h item List.mem_cons_self
    have hitems := run?_itemsAfter (fun x hx => h x (List.mem_cons_of_mem _ hx)) [item] frames rest
    simp only [tokens, itemTokens, List.cons_append, List.append_assoc, Reader.run?, Reader.take?,
      begin?, List.nil_append]
    rw [run?_item, hitem]
    simp only [complete?, Option.bind_some]
    exact hitems

theorem reads_object {members : List (Literal × Json)} (h : ∀ member ∈ members, Reads member.2) :
    Reads (.object members) := by
  intro frames rest
  rcases members with _ | ⟨⟨key, value⟩, members⟩
  · simp only [tokens, memberTokens, List.nil_append, Reader.run?, Reader.take?,
      begin?, close?, List.reverse_nil, List.cons_append]
    rcases complete? (.object []) frames with _ | r
    · rfl
    · rfl
  · have hvalue := h (key, value) List.mem_cons_self
    have hmembers := run?_membersAfter (fun x hx => h x (List.mem_cons_of_mem _ hx))
      [(key, value)] frames rest
    simp only [tokens, memberTokens, List.cons_append, List.append_assoc, Reader.run?,
      Reader.take?, begin?, key?, List.nil_append]
    rw [hvalue]
    simp only [complete?, Option.bind_some]
    exact hmembers

theorem reads_word {value : Json} {word : Token} (htokens : value.tokens = [word])
    (hbegin : ∀ frames, begin? frames word = complete? value frames) : Reads value := by
  intro frames rest
  rw [htokens]
  simp only [List.singleton_append, Reader.run?, Reader.take?, hbegin]
  rcases complete? value frames with _ | r
  · rfl
  · rfl

theorem sizeOf_lt_members {key : Literal} {value : Json} {members : List (Literal × Json)}
    (h : (key, value) ∈ members) : sizeOf value < sizeOf members := by
  have hmember := List.sizeOf_lt_of_mem h
  rw [Prod.mk.sizeOf_spec] at hmember
  omega

theorem reads : ∀ value : Json, Reads value
  | .null => reads_word rfl fun _ => rfl
  | .bool _ => reads_word rfl fun _ => rfl
  | .int _ => reads_word rfl fun _ => rfl
  | .real _ => reads_word rfl fun _ => rfl
  | .str _ => reads_word rfl fun _ => rfl
  | .list items => reads_list fun item _ => reads item
  | .object members => reads_object fun (_, value) hmember =>
    have := sizeOf_lt_members hmember
    reads value

end VolumeSync.Json
