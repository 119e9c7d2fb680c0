import ScriptCheck.Check.Problem

/-! # The wording of problems

A message that says that a variable already exists is about a second declaration, and one that says that a
function does not return a value is about a call that has none: no other problem is worded so, whatever names it
shows (`Problem.tells_iff`, `Problem.tellsVoid_iff`). Names and texts of the script stand inside of a message and
not at its end, so the last characters tell these messages from all others.
-/

namespace ScriptCheck

/-! ### What a problem shows -/

/-- The text of a source, without the quotes around it. -/
def Source.text : Source → String
  | word text => text
  | literal contents => contents

def CallError.function : CallError → String
  | unknown function => function
  | arity function _ _ => function
  | type function _ _ _ => function

namespace Problem

def texts : Problem → List String
  | unfinishedStatement _ | missingDefinition _ | missingSource _ | stringMinus => []
  | badStart text | invalidName text | constantTarget text | literalTarget text => [text]
  | misplacedEquals before | misplacedType before => [before]
  | redeclared name | hidden name | unknownTarget name | unknownOperand name => [name]
  | voidOperand callee | unclosedCall callee => [callee]
  | adjacent before after => [before, after]
  | unknownSource source target => [source, target]
  | sourceType source target => [source.text, target]
  | voidSource callee target | resultType callee target => [callee, target]
  | unknownLeft operator name => [operator, name]
  | operandType operand target => [operand, target]
  | unknownArgument name callee => [name, callee]
  | voidArgument argument callee => [argument, callee]
  | expectedArgument callee found | expectedSeparator callee found => [callee, found]
  | refusedCall error => [error.function]

def isRedeclared : Problem → Bool
  | redeclared _ => true
  | _ => false

/-- The function that has no value, where a problem says so. -/
def voidFunction? : Problem → Option String
  | voidSource callee _ | voidOperand callee | voidArgument callee _ => some callee
  | _ => none

end Problem

/-! ### How a message ends -/

def EndsIn (ending : List Char) (message : String) : Prop := ending <:+ message.toList

instance (ending : List Char) (message : String) : Decidable (EndsIn ending message) :=
  inferInstanceAs (Decidable (_ <:+ _))

variable {ending : List Char}

/-- A message says something else if it ends otherwise. -/
theorem not_endsIn_append (front back : String)
    (apart : ¬ (ending <:+ back.toList ∨ back.toList <:+ ending)) : ¬ EndsIn ending (front ++ back) := by
  intro tells
  have ends : back.toList <:+ (front ++ back).toList := by
    rw [String.toList_append]
    exact List.suffix_append ..
  exact apart (List.suffix_or_suffix_of_suffix tells ends)

/-- A message says something else if it has a number near its end. -/
theorem not_endsIn_number (front : String) (n : Nat) (back : String) (short : back.toList.length < ending.length)
    (letters : ending.any Char.isDigit = false) : ¬ EndsIn ending (front ++ toString n ++ back) := by
  intro tells
  obtain ⟨digits, c, number⟩ := (List.eq_nil_or_concat (Nat.toDigits 10 n)).resolve_left Nat.toDigits_ne_nil
  have digit : c.isDigit = true := by
    apply Nat.isDigit_of_mem_toDigits (b := 10) (n := n) (by omega) (by omega)
    simp [number]
  have ends : c :: back.toList <:+ (front ++ toString n ++ back).toList := by
    refine ⟨front.toList ++ digits, ?_⟩
    simp [Nat.toList_repr, number]
  have within : c :: back.toList <:+ ending := List.suffix_of_suffix_length_le ends tells short
  exact List.any_eq_false.mp letters c (within.mem (List.mem_cons_self ..)) digit

private theorem not_endsIn_number_at_end (front : String) (n : Nat) (some : 0 < ending.length)
    (letters : ending.any Char.isDigit = false) : ¬ EndsIn ending (front ++ toString n) := by
  have ends := not_endsIn_number front n "" some letters
  rw [String.append_empty] at ends
  exact ends

/-! ### Second declarations and calls without a value -/

/-- How the message about a second declaration ends. -/
def alreadyExists : String := "already exists. Cannot re-declare a variable."

/-- The message says that a variable already exists. -/
def TellsExists (message : String) : Prop := alreadyExists.toList <:+ message.toList

instance (message : String) : Decidable (TellsExists message) := inferInstanceAs (Decidable (_ <:+ _))

/-- The last characters of such a message. No other problem shares them. -/
def existsEnding : List Char := ['l', 'e', '.']

private theorem TellsExists.ends {message : String} (tells : TellsExists message) : EndsIn existsEnding message := by
  have ends : existsEnding <:+ alreadyExists.toList := by decide +kernel
  exact ends.trans tells

def noReturnValue : String := "the function does not return a value."

/-- The message says that a function does not return a value. -/
def TellsVoid (message : String) : Prop := noReturnValue.toList <:+ message.toList

def voidEnding : List Char := ['u', 'e', '.']

private theorem TellsVoid.ends {message : String} (tells : TellsVoid message) : EndsIn voidEnding message := by
  have ends : voidEnding <:+ noReturnValue.toList := by decide +kernel
  exact ends.trans tells

/-- A refusal is worded as neither of the two. -/
theorem CallError.not_endsIn (error : CallError) (either : ending = existsEnding ∨ ending = voidEnding) :
    ¬ EndsIn ending error.message := by
  have letters : ending.any Char.isDigit = false := by rcases either with rfl | rfl <;> decide
  cases error with
  | unknown function =>
    apply not_endsIn_append
    rcases either with rfl | rfl <;> decide +kernel
  | arity function expected got =>
    refine not_endsIn_number _ _ _ ?_ letters
    rcases either with rfl | rfl <;> decide +kernel
  | type function position expected got =>
    have ends : ¬ EndsIn ending
        (s!"Parameter {position} has a bad type (expected {expected.name}, got {got.name}, " ++
          s!"in function call {function}" ++ ")") :=
      not_endsIn_append _ _ (by rcases either with rfl | rfl <;> decide +kernel)
    rw [String.append_assoc] at ends
    exact ends

/-- Only a second declaration is worded as one. -/
theorem Problem.tells_iff (problem : Problem) : TellsExists problem.message ↔ problem.isRedeclared = true := by
  cases problem with
  | redeclared name =>
    refine iff_of_true ?_ rfl
    have ends : TellsExists (s!"'{name}" ++ "' " ++ alreadyExists) := by
      rw [TellsExists, String.toList_append]
      exact List.suffix_append ..
    have whole : "' " ++ alreadyExists = "' already exists. Cannot re-declare a variable." := by decide +kernel
    rw [String.append_assoc, whole] at ends
    exact ends
  | refusedCall error =>
    refine iff_of_false (fun tells => ?_) Bool.false_ne_true
    exact error.not_endsIn (.inl rfl) tells.ends
  | missingDefinition line | missingSource line =>
    refine iff_of_false (fun tells => ?_) Bool.false_ne_true
    exact not_endsIn_number_at_end _ line (by decide) (by decide) tells.ends
  | stringMinus => decide +kernel
  | _ =>
    refine iff_of_false (fun tells => ?_) Bool.false_ne_true
    exact not_endsIn_append _ _ (by decide +kernel) tells.ends

/-- A message that ends in a sentence about a call without a value. -/
private theorem tellsVoid_append (front : String) {back : String} (ends : noReturnValue.toList <:+ back.toList) :
    TellsVoid (front ++ back) := by
  rw [TellsVoid, String.toList_append]
  exact ends.trans (List.suffix_append ..)

/-- Only a problem with a call that has no value is worded as one. -/
theorem Problem.tellsVoid_iff (problem : Problem) :
    TellsVoid problem.message ↔ ∃ function, problem.voidFunction? = some function := by
  cases problem with
  | voidSource callee _ | voidOperand callee | voidArgument callee _ =>
    exact iff_of_true (tellsVoid_append _ (by decide +kernel)) ⟨callee, rfl⟩
  | refusedCall error =>
    refine iff_of_false (fun tells => ?_) (by simp [voidFunction?])
    exact error.not_endsIn (.inr rfl) tells.ends
  | missingDefinition line | missingSource line =>
    refine iff_of_false (fun tells => ?_) (by simp [voidFunction?])
    exact not_endsIn_number_at_end _ line (by decide) (by decide) tells.ends
  | stringMinus => exact iff_of_false (fun tells => absurd tells.ends (by decide +kernel)) (by simp [voidFunction?])
  | _ =>
    refine iff_of_false (fun tells => ?_) (by simp [voidFunction?])
    exact not_endsIn_append _ _ (by decide +kernel) tells.ends

end ScriptCheck
