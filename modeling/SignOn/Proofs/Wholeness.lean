import SignOn.Json.Writer
import SignOn.Record.SessionPayload
import SignOn.Record.ErrorResponse

/-!
What has bytes. An encoding refuses a text for the first symbol that it does not admit; UTF-8 admits all symbols but the
halves of pairs, so that it has bytes for a value just when no text in it holds a half.
-/

namespace SignOn

theorem drop_length_takeWhile {α : Type} (p : α → Bool) (as : List α) :
    as.drop (as.takeWhile p).length = as.dropWhile p := by
  induction as with
  | nil => rfl
  | cons a as ih =>
    cases ha : p a with
    | true => simp [ha, ih]
    | false => simp [ha]

section

variable (encoding reason : String) (admits : Symbol → Bool)

/-- Symbols that an encoding admits are not refused, and all others are. -/
theorem unencodable?_eq_none_iff (ss : List Symbol) :
    unencodable? encoding reason admits ss = none ↔ ∀ s ∈ ss, admits s = true := by
  have hstretch : (ss.dropWhile admits).takeWhile (!admits ·) = [] ↔ ∀ s ∈ ss, admits s = true := by
    induction ss with
    | nil => simp
    | cons s ss ih =>
      cases hs : admits s with
      | true => simpa [hs] using ih
      | false => simp [hs]
  rw [← hstretch]
  unfold unencodable?
  simp only [drop_length_takeWhile]
  generalize (ss.dropWhile admits).takeWhile (!admits ·) = stretch
  match stretch with
  | [] => simp
  | [s] => simp
  | a :: b :: rest => simp

/-- Of what is admitted in front, the words of refusal tell the length alone. -/
theorem unencodable?_append {front front' : List Symbol} (h : ∀ s ∈ front, admits s = true)
    (h' : ∀ s ∈ front', admits s = true) (hlength : front.length = front'.length) (ss : List Symbol) :
    unencodable? encoding reason admits (front ++ ss) = unencodable? encoding reason admits (front' ++ ss) := by
  unfold unencodable?
  simp only [drop_length_takeWhile]
  simp only [List.takeWhile_append_of_pos h, List.takeWhile_append_of_pos h', List.dropWhile_append_of_pos h,
    List.dropWhile_append_of_pos h', List.length_append, hlength]

end

theorem Utf8.forall_admits_chars (cs : List Char) : ∀ s ∈ cs.map Symbol.char, admits s = true := by
  intro s hs
  obtain ⟨c, -, rfl⟩ := List.mem_map.1 hs
  rfl

theorem Text.forall_admits_iff (t : Text) : (∀ s ∈ t.symbols, Utf8.admits s = true) ↔ t.isWhole = true := by
  cases t with
  | whole s => exact iff_of_true (Utf8.forall_admits_chars _) rfl
  | torn front half back =>
    refine iff_of_false (fun h => ?_) (by simp [isWhole])
    exact absurd (h (.half half) (by simp [symbols])) (by simp [Utf8.admits])

namespace Json

mutual

/-- Whether no text of a value holds a half. -/
def isWhole : Json → Bool
  | .str s => s.isWhole
  | .arr items => allWhole items
  | .obj members => allWholeIn members
  | _ => true

def allWhole : List Json → Bool
  | [] => true
  | v :: vs => v.isWhole && allWhole vs

def allWholeIn : Members → Bool
  | [] => true
  | (name, v) :: ms => name.isWhole && v.isWhole && allWholeIn ms

end

/-- Quotes and escapes are characters, and a half is written as itself. -/
theorem forall_admits_quoted_iff (t : Text) :
    (∀ s ∈ quotedSymbols t, Utf8.admits s = true) ↔ t.isWhole = true := by
  have hescape : ∀ s : Symbol, (∀ e ∈ escapeSymbol s, Utf8.admits e = true) ↔ Utf8.admits s = true := by
    intro s
    cases s with
    | char c => exact iff_of_true (Utf8.forall_admits_chars _) rfl
    | half h => simp [escapeSymbol]
  have hchar : ∀ c, Utf8.admits (.char c) = true := fun _ => rfl
  rw [← t.forall_admits_iff]
  simp only [quotedSymbols, List.forall_mem_cons, List.forall_mem_append, List.forall_mem_flatMap, hescape, hchar,
    List.not_mem_nil, false_implies, implies_true, true_and, and_true]

mutual

theorem forall_admits_symbols_iff : ∀ v : Json, (∀ s ∈ symbols v, Utf8.admits s = true) ↔ v.isWhole = true
  | .null | .bool _ | .int _ | .real _ => iff_of_true (Utf8.forall_admits_chars _) rfl
  | .str s => forall_admits_quoted_iff s
  | .arr items => by
    rw [isWhole, ← forall_admits_items_iff items]
    simp [symbols, Utf8.admits, or_imp, forall_and]
  | .obj members => by
    rw [isWhole, ← forall_admits_members_iff members]
    simp [symbols, Utf8.admits, or_imp, forall_and]

theorem forall_admits_items_iff : ∀ items : List Json,
    (∀ s ∈ itemSymbols items, Utf8.admits s = true) ↔ allWhole items = true
  | [] => by simp [itemSymbols, allWhole]
  | [v] => by
    rw [itemSymbols, forall_admits_symbols_iff v]
    simp [allWhole]
  | v :: w :: rest => by
    have hv := forall_admits_symbols_iff v
    have hrest := forall_admits_items_iff (w :: rest)
    rw [allWhole, Bool.and_eq_true, ← hv, ← hrest]
    simp [itemSymbols, Utf8.admits, or_imp, forall_and]

theorem forall_admits_members_iff : ∀ members : Members,
    (∀ s ∈ memberSymbols members, Utf8.admits s = true) ↔ allWholeIn members = true
  | [] => by simp [memberSymbols, allWholeIn]
  | [(name, v)] => by
    have hname := forall_admits_quoted_iff name
    have hv := forall_admits_symbols_iff v
    rw [allWholeIn, Bool.and_eq_true, Bool.and_eq_true, ← hname, ← hv]
    simp [memberSymbols, Utf8.admits, allWholeIn, or_imp, forall_and]
  | (name, v) :: m :: rest => by
    have hname := forall_admits_quoted_iff name
    have hv := forall_admits_symbols_iff v
    have hrest := forall_admits_members_iff (m :: rest)
    rw [allWholeIn, Bool.and_eq_true, Bool.and_eq_true, ← hname, ← hv, ← hrest]
    simp [memberSymbols, Utf8.admits, or_imp, forall_and, and_assoc]

end

/-- A value has bytes just when no text in it holds a half. -/
theorem refusal?_eq_none_iff (v : Json) : v.refusal? = none ↔ v.isWhole = true := by
  rw [refusal?, Utf8.refusal?, unencodable?_eq_none_iff, forall_admits_symbols_iff]

end Json

/-- Whether no text of a session holds a half. -/
def Session.isWhole (s : Session) : Bool :=
  s.accessToken.isWhole && s.refreshToken.isWhole && s.email.isWhole && s.user.isWhole

/-- Whether neither the message of a failure nor its details hold a half. -/
def Failure.isWhole (f : Failure) : Bool :=
  f.message.isWhole && Json.allWholeIn f.details

end SignOn
