import RecordFilter.Proofs.Json.Text
import RecordFilter.Proofs.Wire.Denotation

/-!
# Condition lists in layers of text

A condition list may be handed over as a string that holds its JSON text, and the text may stand
for a string once more.  `Json.layered` wraps a value in any number of such layers.  The layers
make no difference: a text is read as the value that it stands for (`Context.decodeTree_string`),
and a value that its text keeps is what the text stands for.

Reading ends whatever the texts are.  `Context.decodeTreeWithin` goes through the layers one by one
and gives up when it has opened a number of them; since a string is shorter than its text, it does
not give up if it may open as many as the outermost text has bytes, and one more.
-/

namespace RecordFilter

/-- The value in `n` layers of text: the string of the text of the string, and so on. -/
def Json.layered : Nat → Json → Json
  | 0, raw => raw
  | n + 1, raw => .string (layered n raw).text

namespace Context

/-- The tree of a condition list, read by opening at most `fuel` layers of text. -/
def decodeTreeWithin (ctx : Context) : Nat → Json → Option (Except WireError Group)
  | 0, .string _ => none
  | fuel + 1, .string text =>
    match Json.parse? text with
    | none => some (.error (.malformedConditions .notJson))
    | some raw => ctx.decodeTreeWithin fuel raw
  | _, raw => some ((ctx.decodeList raw).map ConditionList.toGroup)

variable {ctx : Context}

/-- What is no text needs no layers to be opened. -/
lemma decodeTreeWithin_of_string?_eq_none {raw : Json} (hraw : raw.string? = none) (fuel : Nat) :
    ctx.decodeTreeWithin fuel raw = some (ctx.decodeTree raw) := by
  cases raw with
  | string text => simp [Json.string?] at hraw
  | _ => cases fuel <;> rfl

/-- A text is read as the value that it stands for. -/
theorem decodeTree_string (ctx : Context) (text : String) :
    ctx.decodeTree (.string text) =
      match Json.parse? text with
      | none => .error (.malformedConditions .notJson)
      | some raw => ctx.decodeTree raw := by
  rw [decodeTree, decodeTreeText]
  split
  · next hparse => rw [hparse]
  · next inner hparse =>
    rw [hparse, if_pos (Json.utf8ByteSize_lt_of_parse? hparse)]
    rfl
  · next raw hstring hparse =>
    rw [hparse]
    refine (decodeTree_of_string?_eq_none ?_).symm
    cases raw with
    | string inner => exact absurd rfl (hstring inner)
    | _ => rfl

/-- Reading a text opens no more layers than the text has bytes, and one more. -/
theorem decodeTreeWithin_string {text : String} {fuel : Nat} (h : text.utf8ByteSize < fuel) :
    ctx.decodeTreeWithin fuel (.string text) = some (ctx.decodeTree (.string text)) := by
  induction fuel generalizing text with
  | zero => exact absurd h (Nat.not_lt_zero _)
  | succ fuel ih =>
    rw [decodeTreeWithin, decodeTree_string]
    cases hparse : Json.parse? text with
    | none => rfl
    | some raw =>
      cases hraw : raw.string? with
      | none => exact decodeTreeWithin_of_string?_eq_none hraw fuel
      -- The layer inside has fewer bytes, so that the rest of the fuel is enough for it.
      | some inner =>
        obtain rfl := Json.string?_eq_some_iff.1 hraw
        have hshorter := Json.utf8ByteSize_lt_of_parse? hparse
        exact ih (by omega)

/-- The text of a legible value is read as the value. -/
lemma decodeTree_text {raw : Json} (hraw : raw.IsLegible) :
    ctx.decodeTree (.string raw.text) = ctx.decodeTree raw := by
  rw [decodeTree_string, Json.parse?_text hraw]

/-- A value in layers of text is legible if it is legible without them. -/
lemma isLegible_layered {raw : Json} (hraw : raw.IsLegible) (n : Nat) :
    (raw.layered n).IsLegible := by
  cases n with
  | zero => exact hraw
  | succ n => exact Json.isLegible_string _

/-- **Layers of text.**  A text that stands for a string is longer than the string, so that reading
a condition list from a text ends after no more layers than the text has bytes, and one more.  A
legible condition list is read alike, tree or error, in any number of layers. -/
theorem decodeTree_layers (ctx : Context) :
    (∀ text s, Json.parse? text = some (.string s) → s.utf8ByteSize < text.utf8ByteSize) ∧
      (∀ text fuel, text.utf8ByteSize < fuel →
        ctx.decodeTreeWithin fuel (.string text) = some (ctx.decodeTree (.string text))) ∧
        ∀ raw : Json, raw.IsLegible → ∀ n, ctx.decodeTree (raw.layered n) = ctx.decodeTree raw := by
  refine ⟨fun text s => Json.utf8ByteSize_lt_of_parse?, fun text fuel =>
    decodeTreeWithin_string, fun raw hraw n => ?_⟩
  induction n with
  | zero => rfl
  | succ n ih => rw [Json.layered, decodeTree_text (isLegible_layered hraw n), ih]

/-- A condition list with a number in double precision and a nested list, written as a JSON
value: `score >= 0.5 or (a = -3 and [])`. -/
def scoreList : Json :=
  .array [.array [.string "score", .string ">=", .number (.real ⟨false, Nat.pow 2 52, -53⟩)],
    .string "or", .array [.array [.string "a", .string "=", Json.ofInt (-3)], .string "and",
      .array []]]

/-- The tree of `scoreList`. -/
def scoreTree : Group :=
  let c (name : String) (op : Operator) (value : String) : Node :=
    .condition (.complete (.named name .text) op (.text value))
  ⟨.or, [c "score" .greaterOrEqual "0.5", .group ⟨.and, [c "a" .equals "-3"]⟩]⟩

/-- What `scoreList` holds is kept by its text. -/
lemma isLegible_scoreList : scoreList.IsLegible where
  depth_le := by decide
  settled_eq := by rfl
  integers n hn := by
    obtain rfl : n = -3 := by
      simpa [scoreList, Json.numbers, Json.numbersOfItems, Json.ofInt] using hn
    decide
  reals x hx := by
    obtain rfl : x = ⟨false, Nat.pow 2 52, -53⟩ := by
      simpa [scoreList, Json.numbers, Json.numbersOfItems, Json.ofInt] using hx
    decide +kernel

/-- `decodeTree_layers` at a condition list in three layers of text, and at the text of a pair of
surrogates. -/
theorem decodeTree_layers_scoreList :
    scoreList.IsLegible ∧
      decodeTree ⟨.empty, .standard⟩ (scoreList.layered 3) = .ok scoreTree ∧
        Json.parse? "\"\\ud83d\\ude00\"" = some (.string "😀") ∧
          "😀".utf8ByteSize < "\"\\ud83d\\ude00\"".utf8ByteSize ∧
            decodeTreeWithin ⟨.empty, .standard⟩ 15 (.string "\"\\ud83d\\ude00\"") =
              some (decodeTree ⟨.empty, .standard⟩ (.string "\"\\ud83d\\ude00\"")) := by
  have hread : decodeTree ⟨.empty, .standard⟩ scoreList = .ok scoreTree := by decide +kernel
  have hparse : Json.parse? "\"\\ud83d\\ude00\"" = some (.string "😀") := by decide +kernel
  obtain ⟨hshorter, hwithin, hlayers⟩ := decodeTree_layers ⟨.empty, .standard⟩
  exact ⟨isLegible_scoreList, (hlayers scoreList isLegible_scoreList 3).trans hread, hparse,
    hshorter _ _ hparse, hwithin _ _ (by decide +kernel)⟩

end Context

end RecordFilter
