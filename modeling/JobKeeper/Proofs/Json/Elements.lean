/-
  File:      JobKeeper/Proofs/Json/Elements.lean
  Subject:   The elements of an array, each as a text of its own.

  A document is read by one automaton that keeps the open arrays and objects on a stack. What is at
  the bottom of the stack cannot show until the value above it is complete, so an element is read
  inside its array as it is read alone:

  * `Progress.run_onto`, `Progress.run_onto_split`: a value that is read on top of open arrays and
    objects, and where it ends;
  * `ArrayText`: the texts of the elements of an array, cut at its commas;
  * `exists_arrayText`, `ArrayText.docs`: the text of every array can be cut into the texts of its
    elements, and however it is cut, these are read as the items of the array.
-/
import JobKeeper.Json.Doc
import JobKeeper.Proofs.Json.Tokens
import JobKeeper.Text.Join
import Mathlib.Data.List.Forall2

namespace JobKeeper.Json

/-! ## 1. Values on top of open arrays and objects -/

namespace Progress

/-- The progress of some tokens. -/
def run (p : Progress) (ts : List Token) : Option Progress := ts.foldlM step p

theorem run_cons (p : Progress) (t : Token) (ts : List Token) :
    p.run (t :: ts) = (p.step t).bind (run · ts) := rfl

theorem run_append (p : Progress) (ts ts' : List Token) :
    p.run (ts ++ ts') = (p.run ts).bind (run · ts') := List.foldlM_append

/-- The same progress on top of further open arrays and objects. -/
def onto (outer : List Frame) : Progress → Progress
  | .value frames => .value (frames ++ outer)
  | .item frames => .item (frames ++ outer)
  | .field frames => .field (frames ++ outer)
  | .key fields frames => .key fields (frames ++ outer)
  | .colon fields k frames => .colon fields k (frames ++ outer)
  | .complete doc frames => .complete doc (frames ++ outer)

/-- Below a value that is not complete nothing shows. -/
theorem step_onto (outer : List Frame) {p : Progress} (hopen : ∀ doc, p ≠ .complete doc [])
    (t : Token) : (p.onto outer).step t = (p.step t).map (onto outer) := by
  cases p with
  | value frames => cases t <;> rfl
  | item frames => cases t <;> rfl
  | field frames => cases t <;> rfl
  | key fields frames => cases t <;> rfl
  | colon fields key frames => cases t <;> rfl
  | complete doc frames =>
    cases frames with
    | nil => exact absurd rfl (hopen doc)
    | cons frame frames => cases frame <;> cases t <;> rfl

/-- Nothing follows a document. -/
theorem run_complete {doc : Doc} {ts : List Token} {q : Progress}
    (h : (Progress.complete doc []).run ts = some q) : ts = [] ∧ q = .complete doc [] := by
  cases ts with
  | nil => exact ⟨rfl, (Option.some.inj h).symm⟩
  | cons t ts => cases t <;> cases h

/-- What is read by itself is read in the same way on top of open arrays and objects. -/
theorem run_onto (outer : List Frame) {p : Progress} {ts : List Token} {doc : Doc}
    (h : p.run ts = some (.complete doc [])) :
    (p.onto outer).run ts = some (.complete doc outer) := by
  induction ts generalizing p with
  | nil =>
    cases h
    rfl
  | cons t ts ih =>
    have hopen : ∀ d, p ≠ .complete d [] := by
      intro d hp
      subst hp
      exact nomatch (run_complete h).1
    rw [run_cons] at h ⊢
    obtain ⟨q, hq, hrest⟩ := Option.bind_eq_some_iff.mp h
    rw [step_onto outer hopen, hq]
    exact ih hrest

/-- **What is read on top of open arrays and objects** is a value of its own first. -/
theorem run_onto_split {outer : List Frame} (houter : outer ≠ []) {p : Progress}
    {ts : List Token} {whole : Doc} (h : (p.onto outer).run ts = some (.complete whole [])) :
    ∃ doc ts₁ ts₂, ts = ts₁ ++ ts₂ ∧ p.run ts₁ = some (.complete doc []) ∧
      (Progress.complete doc outer).run ts₂ = some (.complete whole []) := by
  induction ts generalizing p with
  | nil =>
    cases p with
    | complete doc frames =>
      have hnil := (Progress.complete.inj (Option.some.inj h)).2
      exact absurd (List.append_eq_nil_iff.mp hnil).2 houter
    | _ => cases h
  | cons t ts ih =>
    by_cases hcomplete : ∃ doc, p = .complete doc []
    · obtain ⟨doc, rfl⟩ := hcomplete
      exact ⟨doc, [], t :: ts, rfl, rfl, h⟩
    · have hopen : ∀ doc, p ≠ .complete doc [] := fun doc hp => hcomplete ⟨doc, hp⟩
      rw [run_cons, step_onto outer hopen] at h
      obtain ⟨q', hq', hrest⟩ := Option.bind_eq_some_iff.mp h
      obtain ⟨q, hq, rfl⟩ := Option.map_eq_some_iff.mp hq'
      obtain ⟨doc, ts₁, ts₂, rfl, hfirst, hlast⟩ := ih hrest
      refine ⟨doc, t :: ts₁, ts₂, rfl, ?_, hlast⟩
      rw [run_cons, hq]
      exact hfirst

/-- What follows an item of an array: a further item, or the end of the array. -/
theorem run_after_item {doc : Doc} {items : List Doc} {outer : List Frame} {ts : List Token}
    {whole : Doc}
    (h : (Progress.complete doc (.array items :: outer)).run ts = some (.complete whole [])) :
    (∃ ts', ts = .comma :: ts' ∧
      (Progress.value (.array (doc :: items) :: outer)).run ts' = some (.complete whole [])) ∨
    ∃ ts', ts = .closeArray :: ts' ∧
      (Progress.complete (.array (doc :: items).reverse) outer).run ts' =
        some (.complete whole []) := by
  cases ts with
  | nil => cases h
  | cons t ts =>
    cases t with
    | comma => exact Or.inl ⟨ts, rfl, h⟩
    | closeArray => exact Or.inr ⟨ts, rfl, h⟩
    | _ => cases h

/-- The first item of an array is read like any other one. -/
theorem run_first_item {frames : List Frame} {ts : List Token} {whole : Doc}
    (h : (Progress.value (.array [] :: frames)).run ts = some (.complete whole [])) :
    (Progress.item frames).run ts = some (.complete whole []) := by
  cases ts with
  | nil => cases h
  | cons t ts =>
    cases t with
    | closeArray => cases h
    | _ => exact h

/-- An object stays one until it is closed. -/
theorem object_of_run_colon {fields : List (Option String × Doc)} {name : Option String}
    {ts : List Token} {whole : Doc}
    (h : (Progress.colon fields name []).run ts = some (.complete whole [])) :
    ∃ fields', whole = .object fields' := by
  induction hn : ts.length using Nat.strongRecOn generalizing fields name ts with
  | ind n ih =>
    -- the colon, and the value of the field
    obtain ⟨ts', rfl, hvalue⟩ : ∃ ts', ts = .colon :: ts' ∧
        ((Progress.value []).onto [.object fields name]).run ts' = some (.complete whole []) := by
      cases ts with
      | nil => cases h
      | cons t ts =>
        cases t with
        | colon => exact ⟨ts, rfl, h⟩
        | _ => cases h
    obtain ⟨doc, ts₁, ts₂, rfl, _, hrest⟩ := run_onto_split (List.cons_ne_nil _ _) hvalue
    -- a further field, or the end
    cases ts₂ with
    | nil => cases hrest
    | cons t ts₂ =>
      cases t with
      | closeObject => exact ⟨_, (Progress.complete.inj (run_complete hrest).2).1⟩
      | comma =>
        cases ts₂ with
        | nil => cases hrest
        | cons t ts₂ =>
          cases t with
          | string name' =>
            refine ih ts₂.length ?_ hrest rfl
            simp only [List.length_cons, List.length_append] at hn
            omega
          | _ => cases hrest
      | _ => cases hrest

/-- **An array begins with a bracket** and then has its end or its first item. -/
theorem array_of_run_value {ts : List Token} {items : List Doc}
    (h : (Progress.value []).run ts = some (.complete (.array items) [])) :
    (ts = [.openArray, .closeArray] ∧ items = []) ∨
      ∃ ts', ts = .openArray :: ts' ∧
        (Progress.value [.array []]).run ts' = some (.complete (.array items) []) := by
  cases ts with
  | nil => cases h
  | cons t ts =>
    cases t with
    | openArray =>
      cases ts with
      | nil => cases h
      | cons t ts =>
        cases t with
        | closeArray =>
          obtain ⟨rfl, hq⟩ := run_complete h
          exact Or.inl ⟨rfl, Doc.array.inj (Progress.complete.inj hq).1⟩
        | _ => exact Or.inr ⟨_, rfl, h⟩
    | openObject =>
      cases ts with
      | nil => cases h
      | cons t ts =>
        cases t with
        | closeObject => cases (Progress.complete.inj (run_complete h).2).1
        | string name =>
          obtain ⟨_, hobject⟩ := object_of_run_colon h
          cases hobject
        | _ => cases h
    | null => cases (Progress.complete.inj (run_complete h).2).1
    | bool b => cases (Progress.complete.inj (run_complete h).2).1
    | number n => cases (Progress.complete.inj (run_complete h).2).1
    | string s => cases (Progress.complete.inj (run_complete h).2).1
    | _ => cases h

end Progress

/-- The document of a text is what its tokens come to. -/
theorem Doc.ofText?_eq_some_iff {s : String} {doc : Doc} :
    Doc.ofText? s = some doc ↔
      ∃ ts, Token.Lexes s.toList ts ∧ (Progress.value []).run ts = some (.complete doc []) := by
  have parsed : ∀ ts, Doc.ofTokens? ts = some doc ↔
      (Progress.value []).run ts = some (.complete doc []) := by
    intro ts
    unfold Doc.ofTokens? Progress.run
    constructor
    · intro h
      split at h
      · rename_i hrun
        cases h
        exact hrun
      · cases h
    · intro h
      rw [h]
  unfold Doc.ofText?
  rw [Option.bind_eq_some_iff]
  exact exists_congr fun ts => and_congr Token.lexes_iff (parsed ts)

/-- The document of a text, by way of its tokens. -/
theorem Doc.ofText?_of_tokens (tokens : List Token) {text : String} {doc : Doc}
    (htokens : Token.ofText? text = some tokens) (hdoc : Doc.ofTokens? tokens = some doc) :
    Doc.ofText? text = some doc := by
  rw [Doc.ofText?, htokens, Option.bind_some, hdoc]

/-! ## 2. The texts of the elements -/

/-- Nothing but blanks. -/
def Blank (s : String) : Prop := s.toList.all Token.isBlank = true

/-- **The text of an array, cut at its commas** into the texts of its elements, each of them with
    the blanks around it. -/
inductive ArrayText : String → List String → Prop where
  | empty {before inside after : String} (hbefore : Blank before) (hinside : Blank inside)
      (hafter : Blank after) : ArrayText (before ++ "[" ++ inside ++ "]" ++ after) []
  | elements {before after : String} {elements : List String} (hbefore : Blank before)
      (hafter : Blank after) (hne : elements ≠ [])
      (hdocs : ∀ e ∈ elements, (Doc.ofText? e).isSome = true) :
      ArrayText (before ++ "[" ++ Text.join "," elements ++ "]" ++ after) elements

theorem Blank.lexes {s : String} (h : Blank s) : Token.Lexes s.toList [] :=
  Token.Lexes.nil_iff.mpr h

theorem blank_of_lexes {cs : List Char} (h : Token.Lexes cs []) : Blank (String.ofList cs) := by
  unfold Blank
  rw [String.toList_ofList]
  exact Token.Lexes.nil_iff.mp h

theorem isMark_comma : Token.IsMark ',' .comma := Or.inr (Or.inr ⟨rfl, rfl⟩)

theorem isMark_openArray : Token.IsMark '[' .openArray := Or.inl ⟨rfl, rfl⟩

theorem isMark_closeArray : Token.IsMark ']' .closeArray := Or.inr (Or.inl ⟨rfl, rfl⟩)

/-- Tokens that come to a document are those of a text that is read. -/
theorem isSome_ofText?_of_run {cs : List Char} {ts : List Token} {doc : Doc}
    (hl : Token.Lexes cs ts) (h : (Progress.value []).run ts = some (.complete doc [])) :
    (Doc.ofText? (String.ofList cs)).isSome = true := by
  have hdoc : Doc.ofText? (String.ofList cs) = some doc :=
    Doc.ofText?_eq_some_iff.mpr ⟨ts, by rwa [String.toList_ofList], h⟩
  rw [hdoc, Option.isSome_some]

/-- The items of an array are the documents of texts that its commas separate. -/
theorem exists_elements {items : List Doc} {cs : List Char} {ts : List Token} {whole : Doc}
    (hl : Token.Lexes cs ts)
    (h : (Progress.value [.array items]).run ts = some (.complete whole [])) :
    ∃ (elements : List String) (after : String), elements ≠ [] ∧ Blank after ∧
      (∀ e ∈ elements, (Doc.ofText? e).isSome = true) ∧
      cs = (Text.join "," elements ++ "]" ++ after).toList := by
  -- by induction on the number of tokens, as the first item takes any number of them
  induction hn : ts.length using Nat.strongRecOn generalizing items cs ts with
  | ind n ih =>
    obtain ⟨doc, ts₁, ts₂, rfl, hdoc, hrest⟩ := Progress.run_onto_split
      (List.cons_ne_nil (Frame.array items) []) (p := .value []) h
    rcases Progress.run_after_item hrest with ⟨ts₃, rfl, hnext⟩ | ⟨ts₃, rfl, hend⟩
    · obtain ⟨left, right, rfl, hleft, hright⟩ := Token.Lexes.split isMark_comma ts₁ hl
      have hshorter : ts₃.length < n := by
        simp only [List.length_append, List.length_cons] at hn
        omega
      obtain ⟨elements, after, hne, hafter, hdocs, rfl⟩ := ih _ hshorter hright hnext rfl
      refine ⟨String.ofList left :: elements, after, List.cons_ne_nil _ _, hafter,
        List.forall_mem_cons.mpr ⟨isSome_ofText?_of_run hleft hdoc, hdocs⟩, ?_⟩
      rw [Text.join_cons, if_neg hne]
      simp
    · obtain ⟨left, right, rfl, hleft, hright⟩ := Token.Lexes.split isMark_closeArray ts₁ hl
      obtain ⟨rfl, _⟩ := Progress.run_complete hend
      refine ⟨[String.ofList left], String.ofList right, List.cons_ne_nil _ _,
        blank_of_lexes hright,
        List.forall_mem_singleton.mpr (isSome_ofText?_of_run hleft hdoc), ?_⟩
      simp

/-- **The text of every array can be cut into the texts of its elements.** -/
theorem exists_arrayText {s : String} {items : List Doc}
    (h : Doc.ofText? s = some (.array items)) : ∃ elements, ArrayText s elements := by
  obtain ⟨ts, hl, hrun⟩ := Doc.ofText?_eq_some_iff.mp h
  rcases Progress.array_of_run_value hrun with ⟨rfl, rfl⟩ | ⟨ts', rfl, hitems⟩
  · obtain ⟨before, rest, hs, hbefore, hrest⟩ := Token.Lexes.split isMark_openArray [] hl
    obtain ⟨inside, after, rfl, hinside, hafter⟩ := Token.Lexes.split isMark_closeArray [] hrest
    have hcut := ArrayText.empty (blank_of_lexes hbefore) (blank_of_lexes hinside)
      (blank_of_lexes hafter)
    have heq : s = String.ofList before ++ "[" ++ String.ofList inside ++ "]"
        ++ String.ofList after := String.toList_inj.mp (hs.trans (by simp))
    exact ⟨[], heq ▸ hcut⟩
  · obtain ⟨before, rest, hs, hbefore, hrest⟩ := Token.Lexes.split isMark_openArray [] hl
    obtain ⟨elements, after, hne, hafter, hdocs, rfl⟩ := exists_elements hrest hitems
    have hcut := ArrayText.elements (blank_of_lexes hbefore) hafter hne hdocs
    have heq : s = String.ofList before ++ "[" ++ Text.join "," elements ++ "]" ++ after :=
      String.toList_inj.mp (hs.trans (by simp))
    exact ⟨elements, heq ▸ hcut⟩

/-- The texts of elements, with commas between them, are read as further items of an array. -/
theorem run_elements {elements : List String} {docs : List Doc}
    (h : List.Forall₂ (fun e doc => Doc.ofText? e = some doc) elements docs)
    (hne : elements ≠ []) {after : String} (hafter : Blank after) (items : List Doc) :
    ∃ ts, Token.Lexes (Text.join "," elements ++ "]" ++ after).toList ts ∧
      (Progress.value [.array items]).run ts =
        some (.complete (.array (items.reverse ++ docs)) []) := by
  induction h generalizing items with
  | nil => exact absurd rfl hne
  | @cons e doc elements docs hfirst later ih =>
    obtain ⟨ts, hl, hrun⟩ := Doc.ofText?_eq_some_iff.mp hfirst
    have hvalue : (Progress.value [.array items]).run ts = some (.complete doc [.array items]) :=
      Progress.run_onto [.array items] hrun
    cases later with
    | nil =>
      refine ⟨ts ++ [.closeArray], ?_, ?_⟩
      · have hall := hl.append (hafter.lexes.mark isMark_closeArray) (isMark_closeArray.ends _)
        simpa using hall
      · rw [Progress.run_append, hvalue]
        show some (Progress.complete (.array (doc :: items).reverse) []) = _
        rw [List.reverse_cons]
    | @cons e' doc' elements docs hnext later =>
      obtain ⟨ts', hl', hrun'⟩ := ih (List.cons_ne_nil _ _) (doc :: items)
      refine ⟨ts ++ .comma :: ts', ?_, ?_⟩
      · have hall := hl.append (hl'.mark isMark_comma) (isMark_comma.ends _)
        simpa [Text.join_cons_cons] using hall
      · rw [Progress.run_append, hvalue]
        show (Progress.value [.array (doc :: items)]).run ts' = _
        rw [hrun', List.reverse_cons, List.append_assoc]
        rfl

/-- **The elements of an array are its items**, each read as a document of its own, however the text
    of the array is cut. -/
theorem ArrayText.docs {s : String} {elements : List String} (h : ArrayText s elements) :
    ∃ docs, Doc.ofText? s = some (.array docs) ∧
      List.Forall₂ (fun e doc => Doc.ofText? e = some doc) elements docs := by
  cases h with
  | @empty before inside after hbefore hinside hafter =>
    refine ⟨[], Doc.ofText?_eq_some_iff.mpr ⟨[.openArray, .closeArray], ?_, rfl⟩, .nil⟩
    have hclose := hinside.lexes.append (hafter.lexes.mark isMark_closeArray)
      (isMark_closeArray.ends _)
    have hall := hbefore.lexes.append (hclose.mark isMark_openArray) (isMark_openArray.ends _)
    simpa using hall
  | @elements before after _ hbefore hafter hne hdocs =>
    have hread : List.Forall₂ (fun e doc => Doc.ofText? e = some doc) elements
        (elements.map fun e => (Doc.ofText? e).getD .null) := by
      refine List.forall₂_map_right_iff.mpr (List.forall₂_same.mpr fun e he => ?_)
      obtain ⟨doc, hdoc⟩ := Option.isSome_iff_exists.mp (hdocs e he)
      rw [hdoc, Option.getD_some]
    obtain ⟨ts, hl, hrun⟩ := run_elements hread hne hafter []
    refine ⟨_, Doc.ofText?_eq_some_iff.mpr ⟨.openArray :: ts, ?_, ?_⟩, hread⟩
    · have hall := hbefore.lexes.append (hl.mark isMark_openArray) (isMark_openArray.ends _)
      simpa using hall
    · exact Progress.run_first_item hrun

end JobKeeper.Json
