import SignOn.Json.Bytes

/-!
The grammar that the reader of values keeps to. Which tokens spell a value is said without a stack: items and members
stand between their brackets with single commas between them, and of several members with one name the last one counts.
The reader accepts a text exactly when its tokens spell a value, unless the text nests too deep for it.
-/

namespace SignOn

namespace Table

variable {α κ : Type} [DecidableEq κ]

theorem last?_cons (row : κ × α) (rows : Table α κ) (name : κ) :
    last? (row :: rows) name = (last? rows name).or (if row.1 = name then some row.2 else none) := by
  rw [last?, List.reverse_cons, get?_append, get?_cons, get?_nil]
  rfl

theorem get?_foldl_put (t rows : Table α κ) (name : κ) :
    get? (rows.foldl (fun t row => put t row.1 row.2) t) name = (last? rows name).or (get? t name) := by
  induction rows generalizing t with
  | nil => rfl
  | cons row rows ih =>
    rw [List.foldl_cons, ih, last?_cons]
    by_cases h : row.1 = name
    · subst h
      cases last? rows row.1 <;> simp
    · rw [get?_put_of_ne t row.2 (Ne.symm h), if_neg h, Option.or_none]

/-- In a table that some rows build up, the last of the rows counts. -/
theorem get?_ofRows (rows : Table α κ) (name : κ) : get? (ofRows rows) name = last? rows name := by
  rw [ofRows, get?_foldl_put, get?_nil, Option.or_none]

end Table

namespace Json

/-- The tokens of a member. -/
def memberTokens (part : Text × List Token × Json) : List Token :=
  .text part.1 :: .colon :: part.2.1

/-- Name and value of a member. -/
def memberRow (part : Text × List Token × Json) : Text × Json :=
  (part.1, part.2.2)

/-- Whether some tokens spell a value. -/
inductive Spells : List Token → Json → Prop
  | text (s : Text) : Spells [.text s] (.str s)
  | scalar (v : Json) : Spells [.scalar v] v
  | arr (parts : List (List Token × Json)) (h : ∀ part ∈ parts, Spells part.1 part.2) :
      Spells (.openArray :: ([.comma].intercalate (parts.map (·.1)) ++ [.closeArray])) (.arr (parts.map (·.2)))
  | obj (parts : List (Text × List Token × Json)) (h : ∀ part ∈ parts, Spells part.2.1 part.2.2) :
      Spells (.openObject :: ([.comma].intercalate (parts.map memberTokens) ++ [.closeObject]))
        (.obj (Table.ofRows (parts.map memberRow)))

/-- What a token does to the stage of a reader and to the arrays and objects that are open. -/
inductive Moves : Stage → List Frame → Token → Stage → List Frame → Prop
  | text {fresh : Bool} {frames : List Frame} (s : Text) :
      Moves (.value fresh) frames (.text s) (.after (.str s)) frames
  | scalar {fresh : Bool} {frames : List Frame} (v : Json) : Moves (.value fresh) frames (.scalar v) (.after v) frames
  | openArray {fresh : Bool} {frames : List Frame} :
      Moves (.value fresh) frames .openArray (.value true) (.items [] :: frames)
  | openObject {fresh : Bool} {frames : List Frame} : Moves (.value fresh) frames .openObject (.name [] true) frames
  | noItems {frame : Frame} {frames : List Frame} :
      Moves (.value true) (frame :: frames) .closeArray (.after (.arr [])) frames
  | noMembers {done : Members} {frames : List Frame} :
      Moves (.name done true) frames .closeObject (.after (.obj [])) frames
  | name {done : Members} {fresh : Bool} {frames : List Frame} (s : Text) :
      Moves (.name done fresh) frames (.text s) .colon (.members done s :: frames)
  | colon {frames : List Frame} : Moves .colon frames .colon (.value false) frames
  | nextItem {v : Json} {done : List Json} {frames : List Frame} :
      Moves (.after v) (.items done :: frames) .comma (.value false) (.items (v :: done) :: frames)
  | nextName {v : Json} {done : Members} {name : Text} {frames : List Frame} :
      Moves (.after v) (.members done name :: frames) .comma (.name ((name, v) :: done) false) frames
  | closeArray {v : Json} {done : List Json} {frames : List Frame} :
      Moves (.after v) (.items done :: frames) .closeArray (.after (.arr (v :: done).reverse)) frames
  | closeObject {v : Json} {done : Members} {name : Text} {frames : List Frame} :
      Moves (.after v) (.members done name :: frames) .closeObject (.after (closeMembers ((name, v) :: done))) frames

/-- What some tokens do one after another. -/
inductive Runs : Stage → List Frame → List Token → Stage → List Frame → Prop
  | nil {stage : Stage} {frames : List Frame} : Runs stage frames [] stage frames
  | cons {stage stage' stage'' : Stage} {frames frames' frames'' : List Frame} {token : Token} {ts : List Token}
      (hm : Moves stage frames token stage' frames') (hr : Runs stage' frames' ts stage'' frames'') :
      Runs stage frames (token :: ts) stage'' frames''

section Reader

variable {length : Nat} {stage stage' : Stage} {frames frames' : List Frame}

/-- Whether a reading comes to the same as another one, or is given up because it nests too deep. -/
def Leads (a b : Except Fault Json) : Prop :=
  a = b ∨ ∃ object, a = .error (.tooDeep object)

theorem leads_of_moves (length : Nat) {token : Token} (h : Moves stage frames token stage' frames') (offset : Nat)
    (rest : List (Nat × Token)) :
    Leads (assemble length stage frames ((offset, token) :: rest)) (assemble length stage' frames' rest) := by
  cases h with
  | openArray =>
    by_cases hdeep : maxDepth ≤ frames.length
    · exact .inr ⟨false, by simp [assemble, hdeep]⟩
    · exact .inl (by simp [assemble, hdeep])
  | openObject =>
    by_cases hdeep : maxDepth ≤ frames.length
    · exact .inr ⟨true, by simp [assemble, hdeep]⟩
    · exact .inl (by simp [assemble, hdeep])
  | _ => exact .inl (by simp [assemble])

/-- A reading that goes on has moved. -/
theorem moves_of_assemble {offset : Nat} {token : Token} {rest : List (Nat × Token)} {v : Json}
    (h : assemble length stage frames ((offset, token) :: rest) = .ok v) :
    ∃ stage' frames', Moves stage frames token stage' frames' ∧ assemble length stage' frames' rest = .ok v := by
  cases stage with
  | value fresh =>
    cases token with
    | text s => exact ⟨_, _, .text s, by simpa [assemble] using h⟩
    | scalar w => exact ⟨_, _, .scalar w, by simpa [assemble] using h⟩
    | openArray =>
      by_cases hdeep : maxDepth ≤ frames.length
      · simp [assemble, hdeep] at h
      · exact ⟨_, _, .openArray, by simpa [assemble, hdeep] using h⟩
    | openObject =>
      by_cases hdeep : maxDepth ≤ frames.length
      · simp [assemble, hdeep] at h
      · exact ⟨_, _, .openObject, by simpa [assemble, hdeep] using h⟩
    | closeArray =>
      cases fresh with
      | false => simp [assemble] at h
      | true =>
        cases frames with
        | nil => simp [assemble] at h
        | cons frame frames => exact ⟨_, _, .noItems, by simpa [assemble] using h⟩
    | _ => simp [assemble] at h
  | name done fresh =>
    cases token with
    | text s => exact ⟨_, _, .name s, by simpa [assemble] using h⟩
    | closeObject =>
      cases fresh with
      | false => simp [assemble] at h
      | true => exact ⟨_, _, .noMembers, by simpa [assemble] using h⟩
    | _ => simp [assemble] at h
  | colon =>
    cases token with
    | colon => exact ⟨_, _, .colon, by simpa [assemble] using h⟩
    | _ => simp [assemble] at h
  | after w =>
    cases frames with
    | nil => simp [assemble] at h
    | cons frame frames =>
      cases frame with
      | items done =>
        cases token with
        | comma => exact ⟨_, _, .nextItem, by simpa [assemble] using h⟩
        | closeArray => exact ⟨_, _, .closeArray, by simpa [assemble] using h⟩
        | _ => simp [assemble] at h
      | members done name =>
        cases token with
        | comma => exact ⟨_, _, .nextName, by simpa [assemble] using h⟩
        | closeObject => exact ⟨_, _, .closeObject, by simpa [assemble] using h⟩
        | _ => simp [assemble] at h

theorem assemble_nil_eq_ok_iff (v : Json) : assemble length stage frames [] = .ok v ↔ stage = .after v ∧ frames = [] := by
  cases stage with
  | after w => cases frames <;> simp [assemble]
  | _ => simp [assemble]

/-- What a reader accepts, its tokens run through. -/
theorem runs_of_assemble {rest : List (Nat × Token)} {v : Json} (h : assemble length stage frames rest = .ok v) :
    Runs stage frames (rest.map (·.2)) (.after v) [] := by
  induction rest generalizing stage frames with
  | nil =>
    obtain ⟨rfl, rfl⟩ := (assemble_nil_eq_ok_iff v).1 h
    exact .nil
  | cons row rest ih =>
    obtain ⟨stage', frames', hmoves, hrest⟩ := moves_of_assemble h
    exact .cons hmoves (ih hrest)

/-- What runs through is accepted unless it nests too deep. -/
theorem assemble_of_runs (length : Nat) {rest : List (Nat × Token)} {v : Json}
    (h : Runs stage frames (rest.map (·.2)) (.after v) []) : Leads (assemble length stage frames rest) (.ok v) := by
  induction rest generalizing stage frames with
  | nil =>
    cases h
    exact .inl ((assemble_nil_eq_ok_iff v).2 ⟨rfl, rfl⟩)
  | cons row rest ih =>
    cases h with
    | cons hmoves hruns =>
      rcases leads_of_moves length hmoves row.1 rest with heq | hdeep
      · rw [heq]
        exact ih hruns
      · exact .inr hdeep

end Reader

section Completeness

variable {stage stage' stage'' : Stage} {frames frames' frames'' : List Frame}

theorem Moves.runs {token : Token} (h : Moves stage frames token stage' frames') :
    Runs stage frames [token] stage' frames' :=
  .cons h .nil

theorem Runs.append {ts us : List Token} (h : Runs stage frames ts stage' frames')
    (h' : Runs stage' frames' us stage'' frames'') : Runs stage frames (ts ++ us) stage'' frames'' := by
  induction h with
  | nil => exact h'
  | cons hm _ ih => exact .cons hm (ih h')

/-- The items of an array run through if each of them does. -/
theorem runs_items {part : List Token × Json} {parts : List (List Token × Json)}
    (h : ∀ p ∈ part :: parts, ∀ fresh frames, Runs (.value fresh) frames p.1 (.after p.2) frames) (fresh : Bool)
    (done : List Json) (frames : List Frame) :
    Runs (.value fresh) (.items done :: frames)
      ([.comma].intercalate ((part :: parts).map (·.1)) ++ [.closeArray])
      (.after (.arr (done.reverse ++ (part :: parts).map (·.2)))) frames := by
  have hfirst := h part (by simp) fresh (.items done :: frames)
  induction parts generalizing part fresh done with
  | nil =>
    have hclose : Moves (.after part.2) (.items done :: frames) .closeArray (.after (.arr (part.2 :: done).reverse))
        frames := .closeArray
    simpa using hfirst.append hclose.runs
  | cons next parts ih =>
    have hnext : ∀ p ∈ next :: parts, ∀ fresh frames, Runs (.value fresh) frames p.1 (.after p.2) frames :=
      fun p hp => h p (by simp [List.mem_cons.1 hp])
    have hrest := ih hnext false (part.2 :: done) (hnext next (by simp) _ _)
    have hcomma : Moves (.after part.2) (.items done :: frames) .comma (.value false) (.items (part.2 :: done) :: frames) :=
      .nextItem
    simpa [List.intercalate, List.append_assoc] using hfirst.append (.cons hcomma hrest)

/-- The members of an object run through if the value of each does. -/
theorem runs_members {part : Text × List Token × Json} {parts : List (Text × List Token × Json)}
    (h : ∀ p ∈ part :: parts, ∀ fresh frames, Runs (.value fresh) frames p.2.1 (.after p.2.2) frames) (fresh : Bool)
    (done : Members) (frames : List Frame) :
    Runs (.name done fresh) frames ([.comma].intercalate ((part :: parts).map memberTokens) ++ [.closeObject])
      (.after (.obj (Table.ofRows (done.reverse ++ (part :: parts).map memberRow)))) frames := by
  have hfirst : Runs (.name done fresh) frames (memberTokens part) (.after part.2.2) (.members done part.1 :: frames) :=
    .cons (.name part.1) (.cons .colon (h part (by simp) _ _))
  induction parts generalizing part fresh done with
  | nil =>
    have hclose : Moves (.after part.2.2) (.members done part.1 :: frames) .closeObject
        (.after (closeMembers (memberRow part :: done))) frames := .closeObject
    simpa [closeMembers] using hfirst.append hclose.runs
  | cons next parts ih =>
    have hnext : ∀ p ∈ next :: parts, ∀ fresh frames, Runs (.value fresh) frames p.2.1 (.after p.2.2) frames :=
      fun p hp => h p (by simp [List.mem_cons.1 hp])
    have hrest := ih hnext false (memberRow part :: done)
      (.cons (.name next.1) (.cons .colon (hnext next (by simp) _ _)))
    have hcomma : Moves (.after part.2.2) (.members done part.1 :: frames) .comma (.name (memberRow part :: done) false)
        frames := .nextName
    simpa [List.intercalate, List.append_assoc] using hfirst.append (.cons hcomma hrest)

/-- The tokens of a value run through, whatever is open around it. -/
theorem Spells.runs {ts : List Token} {v : Json} (h : Spells ts v) (fresh : Bool) (frames : List Frame) :
    Runs (.value fresh) frames ts (.after v) frames := by
  induction h generalizing fresh frames with
  | text s => exact (Moves.text s).runs
  | scalar v => exact (Moves.scalar v).runs
  | arr parts h ih =>
    refine .cons .openArray ?_
    cases parts with
    | nil => exact Moves.noItems.runs
    | cons part parts => exact runs_items ih true [] frames
  | obj parts h ih =>
    refine .cons .openObject ?_
    cases parts with
    | nil => exact Moves.noMembers.runs
    | cons part parts => exact runs_members ih true [] frames

end Completeness

section Soundness

variable {stage stage' : Stage} {frames frames' : List Frame} {ts : List Token}

/-- Whether some tokens open arrays and objects, and fill them so far. -/
inductive Opens : List Token → List Frame → Prop
  | nothing : Opens [] []
  | items {ts : List Token} {frames : List Frame} (ho : Opens ts frames) (parts : List (List Token × Json))
      (hp : ∀ part ∈ parts, Spells part.1 part.2) :
      Opens (ts ++ .openArray :: parts.flatMap fun part => part.1 ++ [.comma])
        (.items (parts.map (·.2)).reverse :: frames)
  | members {ts : List Token} {frames : List Frame} (ho : Opens ts frames) (parts : List (Text × List Token × Json))
      (hp : ∀ part ∈ parts, Spells part.2.1 part.2.2) (name : Text) :
      Opens (ts ++ .openObject :: ((parts.flatMap fun part => memberTokens part ++ [.comma]) ++ [.text name, .colon]))
        (.members (parts.map memberRow).reverse name :: frames)

/-- Whether some tokens have been taken when a stage is reached. -/
inductive Reaches : List Token → Stage → List Frame → Prop
  | value {ts : List Token} {frames : List Frame} (ho : Opens ts frames) : Reaches ts (.value false) frames
  | fresh {ts : List Token} {frames : List Frame} (ho : Opens ts frames) :
      Reaches (ts ++ [.openArray]) (.value true) (.items [] :: frames)
  | name {ts : List Token} {frames : List Frame} (ho : Opens ts frames) (parts : List (Text × List Token × Json))
      (hp : ∀ part ∈ parts, Spells part.2.1 part.2.2) (fresh : Bool) (hf : fresh = true → parts = []) :
      Reaches (ts ++ .openObject :: parts.flatMap fun part => memberTokens part ++ [.comma])
        (.name (parts.map memberRow).reverse fresh) frames
  | colon {ts : List Token} {frames : List Frame} (ho : Opens (ts ++ [.colon]) frames) : Reaches ts .colon frames
  | after {ts us : List Token} {frames : List Frame} {v : Json} (ho : Opens ts frames) (hs : Spells us v) :
      Reaches (ts ++ us) (.after v) frames

theorem intercalate_concat {β : Type} (tokens : β → List Token) (parts : List β) (part : β) :
    [Token.comma].intercalate ((parts ++ [part]).map tokens) =
      (parts.flatMap fun part => tokens part ++ [.comma]) ++ tokens part := by
  induction parts with
  | nil => simp [List.intercalate]
  | cons first parts ih =>
    cases parts with
    | nil => simp [List.intercalate]
    | cons next parts =>
      have hnext : [Token.comma].intercalate ((first :: next :: parts ++ [part]).map tokens) =
          tokens first ++ .comma :: [Token.comma].intercalate ((next :: parts ++ [part]).map tokens) := by
        simp [List.intercalate]
      rw [hnext, ih]
      simp [List.append_assoc]

theorem Reaches.opens {fresh : Bool} (h : Reaches ts (.value fresh) frames) : Opens ts frames := by
  cases h with
  | value ho => exact ho
  | fresh ho => exact .items ho [] (by simp)

/-- A token that fits a stage adds to what has been taken. -/
theorem Reaches.moves {token : Token} (h : Reaches ts stage frames)
    (hm : Moves stage frames token stage' frames') : Reaches (ts ++ [token]) stage' frames' := by
  cases hm with
  | text s => exact .after h.opens (.text s)
  | scalar v => exact .after h.opens (.scalar v)
  | openArray => exact .fresh h.opens
  | openObject => exact .name h.opens [] (by simp) true fun _ => rfl
  | noItems =>
    cases h with
    | fresh ho =>
      rw [List.append_assoc]
      exact .after ho (.arr [] (by simp))
  | noMembers =>
    cases h with
    | name ho parts hp fresh hf =>
      obtain rfl := hf rfl
      rw [List.append_assoc]
      exact .after ho (.obj [] (by simp))
  | name s =>
    cases h with
    | name ho parts hp =>
      have hopens := ho.members parts hp s
      refine .colon ?_
      simpa [List.append_assoc] using hopens
  | colon =>
    cases h with
    | colon ho => exact .value ho
  | @nextItem v =>
    cases h with
    | @after _ us _ _ ho hs =>
      cases ho with
      | items ho parts hp =>
        have hopens := ho.items (parts ++ [(us, v)]) (List.forall_mem_append.2 ⟨hp, by simpa using hs⟩)
        refine .value ?_
        simpa [List.append_assoc] using hopens
  | @nextName v _ key =>
    cases h with
    | @after _ us _ _ ho hs =>
      cases ho with
      | members ho parts hp =>
        have hreach := Reaches.name ho (parts ++ [(key, us, v)]) (List.forall_mem_append.2 ⟨hp, by simpa using hs⟩) false
          nofun
        simpa [List.append_assoc, memberTokens, memberRow] using hreach
  | @closeArray v =>
    cases h with
    | @after _ us _ _ ho hs =>
      cases ho with
      | items ho parts hp =>
        have hspells := Spells.arr (parts ++ [(us, v)]) (List.forall_mem_append.2 ⟨hp, by simpa using hs⟩)
        rw [intercalate_concat] at hspells
        simpa [List.append_assoc] using Reaches.after ho hspells
  | @closeObject v _ key =>
    cases h with
    | @after _ us _ _ ho hs =>
      cases ho with
      | members ho parts hp =>
        have hspells := Spells.obj (parts ++ [(key, us, v)])
          (List.forall_mem_append.2 ⟨hp, by simpa using hs⟩)
        rw [intercalate_concat] at hspells
        simpa [List.append_assoc, memberTokens, memberRow, closeMembers] using Reaches.after ho hspells

theorem Reaches.runs {us : List Token} (h : Reaches ts stage frames) (hr : Runs stage frames us stage' frames') :
    Reaches (ts ++ us) stage' frames' := by
  induction hr generalizing ts with
  | nil => simpa using h
  | cons hm _ ih =>
    have hrest := ih (h.moves hm)
    rwa [List.append_assoc] at hrest

/-- What runs through a reader spells a value. -/
theorem spells_of_runs {v : Json} (h : Runs (.value false) [] ts (.after v) []) : Spells ts v := by
  have hreach := (Reaches.value .nothing).runs h
  rw [List.nil_append] at hreach
  cases hreach with
  | after ho hs =>
    cases ho
    exact hs

end Soundness

/-- The tokens of a source. -/
def tokensOf (source : List Symbol) : List Token :=
  (tokens (Symbol.halves 0 source) 0 0 (source.map Symbol.shown)).map (·.2)

/-- A reader accepts a source exactly when its tokens spell a value, unless the source nests too deep. -/
theorem readWith_eq_ok_iff {source : List Symbol}
    (h : ∀ object, readWith (Symbol.halves 0 source) (source.map Symbol.shown) ≠ .error (.tooDeep object)) (v : Json) :
    readWith (Symbol.halves 0 source) (source.map Symbol.shown) = .ok v ↔ Spells (tokensOf source) v := by
  constructor
  · intro hread
    exact spells_of_runs (runs_of_assemble hread)
  · intro hspells
    rcases assemble_of_runs (source.map Symbol.shown).length (hspells.runs false []) with hread | ⟨object, hdeep⟩
    · exact hread
    · exact absurd hdeep (h object)

/-- Whether some bytes denote a value: they are a source, whose tokens spell it. -/
def Denotes (bs : List UInt8) (v : Json) : Prop :=
  ∃ source, decodeText bs = .ok source ∧ Spells (tokensOf source) v

theorem readBytes_eq_ok_iff {bs : List UInt8} (h : ∀ text object, readBytes bs ≠ .error (.source text (.tooDeep object)))
    (v : Json) : readBytes bs = .ok v ↔ Denotes bs v := by
  unfold Denotes
  cases hd : decodeText bs with
  | error u => simp [readBytes, hd]
  | ok source =>
    have hsource : ∀ object, readWith (Symbol.halves 0 source) (source.map Symbol.shown) ≠ .error (.tooDeep object) := by
      intro object hdeep
      exact h (source.map Symbol.shown) object (by simp only [readBytes, hd, hdeep])
    have hbytes : readBytes bs = .ok v ↔ readWith (Symbol.halves 0 source) (source.map Symbol.shown) = .ok v := by
      simp only [readBytes, hd]
      cases readWith (Symbol.halves 0 source) (source.map Symbol.shown) <;> simp
    rw [hbytes, readWith_eq_ok_iff hsource]
    simp

end Json

end SignOn
