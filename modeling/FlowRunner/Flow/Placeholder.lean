import FlowRunner.Flow.Increment
import FlowRunner.Flow.Step

/-!
# Placeholders

A placeholder is a key between two opening and two closing angle brackets. A text that is one
placeholder and nothing else stands for the stored value itself; inside other text a placeholder
stands for the value's text. A text with an increment in it stands for the incremented number
(`FlowRunner.Flow.Increment`).

* `Placeholder.substitute` replaces the placeholders of a text from left to right. What is put in is
  never looked at again.
* `Placeholder.resolve` goes through a value; keys of objects stay as they are.
-/

namespace FlowRunner

/-- Why placeholders are not resolved. -/
inductive ResolveError
  | noIncrement (reference value : String)
  | badStep (misfit : Misfit)

/-- The wording of the error. -/
def ResolveError.message : ResolveError → String
  | .noIncrement reference value =>
    "Cannot increment '" ++ reference ++ "': " ++ value ++ " is not an integer"
  | .badStep misfit => "Invalid step after placeholder resolution: " ++ misfit.message

namespace Placeholder

/-- What stands before the closing brackets on the same line, and what stands after them. -/
def closing : List Char → Option (List Char × List Char)
  | '>' :: '>' :: rest => some ([], rest)
  | [] => none
  | c :: rest =>
    if c = '\n' then none
    else (closing rest).map fun (before, after) => (c :: before, after)

/-- The key after opening brackets, at least one character, and the text after the placeholder. -/
def keyAfter : List Char → Option (List Char × List Char)
  | [] => none
  | c :: rest =>
    if c = '\n' then none
    else (closing rest).map fun (before, after) => (c :: before, after)

theorem closing_length {s key rest : List Char} (h : closing s = some (key, rest)) :
    rest.length < s.length := by
  fun_induction closing s generalizing key rest with
  | case1 more =>
    simp only [Option.some.injEq, Prod.mk.injEq] at h
    obtain ⟨_, rfl⟩ := h
    simp only [List.length_cons]; omega
  | case2 => simp at h
  | case3 => simp at h
  | case4 c more _ _ ih =>
    simp only [Option.map_eq_some_iff] at h
    obtain ⟨⟨before, after⟩, hc, he⟩ := h
    simp only [Prod.mk.injEq] at he
    have := ih hc
    simp only [List.length_cons, ← he.2]
    omega

theorem keyAfter_length {s key rest : List Char} (h : keyAfter s = some (key, rest)) :
    rest.length < s.length := by
  cases s with
  | nil => simp [keyAfter] at h
  | cons c more =>
    by_cases hc : c = '\n'
    · simp [keyAfter, hc] at h
    · simp only [keyAfter, hc, if_false, Option.map_eq_some_iff] at h
      obtain ⟨⟨before, after⟩, hk, he⟩ := h
      simp only [Prod.mk.injEq] at he
      have := closing_length hk
      simp only [List.length_cons, ← he.2]
      omega

/-- Replaces the placeholders of a text by the texts of the values stored under their keys. -/
def substitute (store : Store) : List Char → List Char
  | [] => []
  | '<' :: '<' :: rest =>
    match _h : keyAfter rest with
    | some (key, after) =>
      (Value.embedded (store.get? (String.ofList key))).toList ++ substitute store after
    | none => '<' :: substitute store ('<' :: rest)
  | c :: rest => c :: substitute store rest
termination_by s => s.length
decreasing_by
  · have := keyAfter_length _h
    simp only [List.length_cons]
    omega
  · simp
  · simp

/-- The value that a text without an increment stands for. -/
def resolvePlain (store : Store) (s : List Char) : Value :=
  match wholeKey? s with
  | some key => (store.get? (String.ofList key)).getD .null
  | none => .text (String.ofList (substitute store s))

/-- The value that a text stands for. -/
def resolveText (store : Store) (s : String) : Except ResolveError Value :=
  match Increment.reference? s.toList with
  | some reference =>
    let key := Increment.keyOf reference
    match Increment.next store key with
    | .ok v => .ok v
    | .error value => .error (.noIncrement key value)
  | none => .ok (resolvePlain store s.toList)

mutual

/-- The value with every text in it resolved. -/
def resolve (store : Store) : Value → Except ResolveError Value
  | .text s => resolveText store s
  | .list items => (resolveItems store items).map .list
  | .object members => (resolveMembers store members).map .object
  | .null => .ok .null
  | .bool b => .ok (.bool b)
  | .number n => .ok (.number n)

/-- Items with every text in them resolved. -/
def resolveItems (store : Store) : List Value → Except ResolveError (List Value)
  | [] => .ok []
  | v :: rest => do
    let w ← resolve store v
    let ws ← resolveItems store rest
    .ok (w :: ws)

/-- Members with every text in their values resolved. -/
def resolveMembers (store : Store) :
    List (String × Value) → Except ResolveError (List (String × Value))
  | [] => .ok []
  | (key, v) :: rest => do
    let w ← resolve store v
    let pairs ← resolveMembers store rest
    .ok ((key, w) :: pairs)

end

end Placeholder

/-- The store with every value resolved against the store as it was. -/
def Store.resolved (store : Store) : Except ResolveError Store :=
  (Placeholder.resolveMembers store store.entries).map Store.ofPairs

namespace Step

/-- The step that a raw step stands for. -/
def ofRawWith (store : Store) (raw : RawStep) : Except ResolveError Step := do
  let members ← Placeholder.resolveMembers store raw
  match ofRaw members with
  | .ok step => .ok step
  | .error misfit => .error (.badStep misfit)

/-- Whether a raw step asks to be skipped. Nothing else of it is resolved. -/
def skipRequested (store : Store) (raw : RawStep) : Except ResolveError Bool :=
  match Members.get? "skip_step" raw with
  | some v => (Placeholder.resolve store v).map fun w => w.flag?.getD false
  | none => .ok false

end Step

end FlowRunner
