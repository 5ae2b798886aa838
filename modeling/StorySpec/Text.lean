/-!
# Texts

A text is the list of its characters, so that every rule that reads or writes one is a recursion
on a list.

## Main definitions

* `Text`: a list of characters.
* `Text.width t`: the number of bytes of `t` in UTF-8.
* `Text.splitAtWidth? n t`: `t` cut after its first `n` bytes, where a character ends there.
* `Text.lines t`, `Text.unlines ls`: the lines of a text, and the text of a list of lines.
* `Text.joined sep ts`: the texts `ts` with `sep` between them.
* `Text.ofNat n`: the decimal digits of `n`.

## Main results

* `splitAtWidth?_eq_some_iff`: a cut after `n` bytes is exactly a way to write the text as two
  parts of which the first is `n` bytes wide.
-/

namespace StorySpec

/-- A text is the list of its characters. -/
abbrev Text := List Char

namespace Text

/-! ## Width -/

/-- The number of bytes that a text takes in UTF-8. -/
def width : Text → Nat
  | [] => 0
  | c :: t => c.utf8Size + width t

@[simp] theorem width_nil : width [] = 0 := rfl

@[simp] theorem width_cons (c : Char) (t : Text) : width (c :: t) = c.utf8Size + width t := rfl

@[simp] theorem width_append (s t : Text) : width (s ++ t) = width s + width t := by
  induction s with
  | nil => simp
  | cons c s ih => simp [ih, Nat.add_assoc]

/-- The text cut in two after its first `n` bytes; `none` when the text is shorter, or when a
character stands across that place. -/
def splitAtWidth? : Nat → Text → Option (Text × Text)
  | 0, t => some ([], t)
  | _ + 1, [] => none
  | n + 1, c :: t =>
    if c.utf8Size ≤ n + 1 then
      (splitAtWidth? (n + 1 - c.utf8Size) t).map fun cut => (c :: cut.1, cut.2)
    else none

/-- A cut after `n` bytes is exactly a way to write the text as two parts of which the first is
`n` bytes wide. -/
theorem splitAtWidth?_eq_some_iff {n : Nat} {t front rest : Text} :
    splitAtWidth? n t = some (front, rest) ↔ t = front ++ rest ∧ width front = n := by
  induction t generalizing n front rest with
  | nil =>
    cases n with
    | zero => cases front <;> simp [splitAtWidth?, eq_comm]
    | succ n => cases front <;> simp [splitAtWidth?]
  | cons c t ih =>
    have hc := c.utf8Size_pos
    cases n with
    | zero =>
      cases front with
      | nil => simp [splitAtWidth?, eq_comm]
      | cons d front =>
        have hd := d.utf8Size_pos
        simp only [splitAtWidth?, Option.some.injEq, Prod.mk.injEq, width_cons]
        constructor
        · rintro ⟨h, -⟩; cases h
        · rintro ⟨-, h⟩; omega
    | succ n =>
      cases front with
      | nil => simp only [splitAtWidth?]; split <;> simp [Option.map_eq_some_iff]
      | cons d front =>
        simp only [splitAtWidth?, width_cons, List.cons_append, List.cons.injEq]
        split
        · rename_i hle
          simp only [Option.map_eq_some_iff, Prod.exists, Prod.mk.injEq, List.cons.injEq, ih]
          constructor
          · rintro ⟨f, r, ⟨rfl, hw⟩, ⟨rfl, rfl⟩, rfl⟩
            exact ⟨⟨rfl, rfl⟩, by omega⟩
          · rintro ⟨⟨rfl, rfl⟩, hw⟩
            exact ⟨front, rest, ⟨rfl, by omega⟩, ⟨rfl, rfl⟩, rfl⟩
        · rename_i hle
          constructor
          · intro h; cases h
          · rintro ⟨⟨rfl, -⟩, hw⟩; omega

/-! ## Lines -/

/-- The lines of a text: it is divided at its line breaks, and a break at the very end closes the
last line instead of opening an empty one. -/
def lines : Text → List Text
  | [] => []
  | c :: t =>
    if c = '\n' then [] :: lines t
    else match lines t with
      | [] => [[c]]
      | line :: rest => (c :: line) :: rest

/-- The text of a list of lines: each of them is closed by a line break. -/
def unlines (ls : List Text) : Text :=
  ls.flatMap fun line => line ++ ['\n']

@[simp] theorem unlines_nil : unlines [] = [] := rfl

@[simp] theorem unlines_cons (l : Text) (ls : List Text) :
    unlines (l :: ls) = l ++ '\n' :: unlines ls := by
  simp [unlines]

@[simp] theorem unlines_append (ls ms : List Text) :
    unlines (ls ++ ms) = unlines ls ++ unlines ms := by
  simp [unlines]

/-! ## Joining -/

/-- The texts of `ts` one after the other, with `sep` between any two of them. -/
def joined (sep : Text) (ts : List Text) : Text :=
  List.intercalate sep ts

@[simp] theorem joined_nil (sep : Text) : joined sep [] = [] := rfl

@[simp] theorem joined_singleton (sep t : Text) : joined sep [t] = t := by
  simp [joined, List.intercalate]

@[simp] theorem joined_cons_cons (sep t u : Text) (ts : List Text) :
    joined sep (t :: u :: ts) = t ++ sep ++ joined sep (u :: ts) := by
  simp [joined, List.intercalate]

/-! ## Numbers -/

/-- The decimal digits of `n`. -/
def ofNat (n : Nat) : Text :=
  Nat.toDigits 10 n

end Text

end StorySpec
