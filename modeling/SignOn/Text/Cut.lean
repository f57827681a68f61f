/-!
Cutting texts: at separators, and at the white space around them, which comes in two sets.
-/

namespace SignOn.Text

/-- Cuts a row of characters at every occurrence of one. -/
def cut (sep : Char) : List Char → List (List Char)
  | [] => [[]]
  | c :: cs =>
    if c = sep then [] :: cut sep cs
    else
      match cut sep cs with
      | [] => [[c]]
      | part :: parts => (c :: part) :: parts

@[simp] theorem cut_nil (sep : Char) : cut sep [] = [[]] := rfl

@[simp] theorem cut_ne_nil (sep : Char) (cs : List Char) : cut sep cs ≠ [] := by
  cases cs with
  | nil => simp
  | cons c cs =>
    unfold cut
    split
    · simp
    · split <;> simp

/-- Joining the pieces again gives the text back. -/
theorem intercalate_cut (sep : Char) (cs : List Char) : [sep].intercalate (cut sep cs) = cs := by
  induction cs with
  | nil => rfl
  | cons c cs ih =>
    unfold cut
    split
    · next h =>
      subst h
      cases hc : cut c cs with
      | nil => exact absurd hc (cut_ne_nil c cs)
      | cons part parts => simpa [List.intercalate, hc] using ih
    · cases hc : cut sep cs with
      | nil => exact absurd hc (cut_ne_nil sep cs)
      | cons part parts => cases parts <;> simpa [List.intercalate, hc] using ih

end SignOn.Text

namespace SignOn.Blank

def isSpace (c : Char) : Bool :=
  let n := c.toNat
  (0x09 ≤ n && n ≤ 0x0D) || n == 0x20 || n == 0x85 || n == 0xA0 || n == 0x1680 ||
  (0x2000 ≤ n && n ≤ 0x200A) || n == 0x2028 || n == 0x2029 || n == 0x202F || n == 0x205F ||
  n == 0x3000

/-- White space together with the four information separators. -/
def isBlank (c : Char) : Bool :=
  isSpace c || (0x1C ≤ c.toNat && c.toNat ≤ 0x1F)

/-- A text without the characters of a class at either end. -/
def trim (p : Char → Bool) (cs : List Char) : List Char :=
  ((cs.dropWhile p).reverse.dropWhile p).reverse

@[simp] theorem trim_nil (p : Char → Bool) : trim p [] = [] := rfl

end SignOn.Blank
