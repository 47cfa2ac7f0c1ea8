import PanelSource.Text.Blank

/- The shortest front of a text that something closes.

   `shortestFront close` takes characters off a text, at least one and no line feed, until `close`
   takes what is left. `frontAfterBlanks` first passes over blanks, as many as still lead to a
   front. Patterns of suggestion queries and placeholders of legends end this way. -/
namespace PanelSource.Text
variable {β : Type}

/-- The shortest front after the characters `done` (last first), with what `close` made of the
    rest. -/
def shortestFront (close : List Char → Option β) (done : List Char) :
    List Char → Option (List Char × β)
  | [] => none
  | c :: rest =>
    if c = '\n' then none
    else
      match close rest with
      | some b => some ((c :: done).reverse, b)
      | none => shortestFront close (c :: done) rest

/-- The shortest front after as many blanks as possible. -/
def frontAfterBlanks (close : List Char → Option β) (cs : List Char) : Option (List Char × β) :=
  let blanks := (cs.takeWhile isBlank).length
  (List.range (blanks + 1)).findSome? fun i => shortestFront close [] (cs.drop (blanks - i))

/-- What closes a front comes after at least one character of the text. -/
theorem shortestFront_rest {close : List Char → Option β} {done cs front : List Char} {b : β}
    (h : shortestFront close done cs = some (front, b)) :
    ∃ rest, rest <:+ cs ∧ rest.length < cs.length ∧ close rest = some b := by
  induction cs generalizing done with
  | nil => simp [shortestFront] at h
  | cons c rest ih =>
    unfold shortestFront at h
    split at h
    · exact absurd h (by simp)
    · split at h
      · rename_i b' hb
        simp only [Option.some.injEq, Prod.mk.injEq] at h
        exact ⟨rest, List.suffix_cons c rest, by simp, by rw [hb, h.2]⟩
      · obtain ⟨r, hs, hl, hr⟩ := ih h
        exact ⟨r, hs.trans (List.suffix_cons c rest), by simp only [List.length_cons]; omega, hr⟩

theorem frontAfterBlanks_rest {close : List Char → Option β} {cs front : List Char} {b : β}
    (h : frontAfterBlanks close cs = some (front, b)) :
    ∃ rest, rest <:+ cs ∧ rest.length < cs.length ∧ close rest = some b := by
  unfold frontAfterBlanks at h
  obtain ⟨i, -, hi⟩ := List.exists_of_findSome?_eq_some h
  obtain ⟨r, hs, hl, hr⟩ := shortestFront_rest hi
  refine ⟨r, hs.trans (List.drop_suffix _ _), ?_, hr⟩
  have := List.length_drop (i := (List.takeWhile isBlank cs).length - i) (l := cs)
  omega

end PanelSource.Text
