/-
  File:      JobKeeper/Text/Join.lean
  Subject:   Lists of texts written one after the other with a separator between neighbours.
-/
namespace JobKeeper.Text

/-- The texts in order with `sep` between each two neighbours and none at the ends. -/
def join (sep : String) : List String → String
  | [] => ""
  | [s] => s
  | s :: t :: rest => s ++ sep ++ join sep (t :: rest)

@[simp] theorem join_nil (sep : String) : join sep [] = "" := rfl

@[simp] theorem join_singleton (sep s : String) : join sep [s] = s := rfl

theorem join_cons_cons (sep s t : String) (rest : List String) :
    join sep (s :: t :: rest) = s ++ sep ++ join sep (t :: rest) := rfl

/-- A first text is followed by the separator exactly if there is a second one. -/
theorem join_cons (sep s : String) (rest : List String) :
    join sep (s :: rest) = if rest = [] then s else s ++ sep ++ join sep rest := by
  cases rest <;> simp [join]

end JobKeeper.Text
