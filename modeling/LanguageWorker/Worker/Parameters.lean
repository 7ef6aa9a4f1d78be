import LanguageWorker.Decode.Decoder

namespace LanguageWorker

/-! Decoding of parameter lists: every method takes its parameters from an array, each
at its own place. -/

/-- Parameters that stand one after the other in an array: how many they are, and
how to take them from the front. Taking fails without a cause when the array
is too short. -/
structure Parameters (α : Type) where
  count : Nat
  take : List Json → Except (Option DecodeError) (α × List Json)

namespace Parameters

variable {α β : Type}

/-- A single parameter. -/
def one (decoder : Decoder α) : Parameters α where
  count := 1
  take
    | [] => .error none
    | item :: rest =>
        match decoder.ofJson item with
        | .ok value => .ok (value, rest)
        | .error cause => .error (some cause)

/-- Parameters followed by others. -/
def and (first : Parameters α) (second : Parameters β) : Parameters (α × β) where
  count := first.count + second.count
  take items := do
    let (value, rest) ← first.take items
    let (value', rest) ← second.take rest
    return ((value, value'), rest)

def map (transform : α → β) (parameters : Parameters α) : Parameters β where
  count := parameters.count
  take items := do
    let (value, rest) ← parameters.take items
    return (transform value, rest)

/-- What a parameter list is called in complaints. -/
def form (parameters : Parameters α) : String :=
  "a tuple of size " ++ toString parameters.count

/-- Decode an array that holds just the parameters. -/
def decode (parameters : Parameters α) (given : Json) : Except DecodeError α :=
  match given with
  | .array items =>
      match parameters.take items with
      | .ok (value, []) => .ok value
      | .ok (_, _ :: _) => .error (.invalidLength items.length "fewer elements in array")
      | .error (some cause) => .error cause
      | .error none => .error (.invalidLength items.length parameters.form)
  | value => Decoder.mismatch value parameters.form

end Parameters

end LanguageWorker
