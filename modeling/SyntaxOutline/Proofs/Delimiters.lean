import SyntaxOutline.Proofs.Decoding

/-!
# Where a base label and a number field end

Nothing set around a base label or a number field is needed to take it apart,
since both say themselves where their parts end. This is shown by taking them
apart.

The name in a base label ends before the first character that is no letter.
What comes after it is nothing for a kind without a spelling, and for a kind
with one it is the separator and the spelling, up to the end of the label
(`Kind.read?`). So an empty spelling differs from no spelling by the
separator, and no spelling, whatever is in it, can lengthen a name: `Int` with
any spelling is never `IntType`, although the one name begins the other.

A number field ends where its width says, and its width depends on the number
of digits alone. The digits end before the colon, which comes with every
number however wide (`readField`). So what stands behind the field may be any
text, digits and blanks included.
-/

namespace SyntaxOutline

/-! ## Base labels -/

namespace Kind

/-- **The kind that a base label is of**, without a frame offset: the name goes as far as letters
go, and the spelling begins two characters later. -/
def read? (label : List Char) : Option Kind :=
  let rest := label.dropWhile Char.isAlpha
  ofParts? (String.ofList (label.takeWhile Char.isAlpha))
    (if rest = [] then none else some ⟨String.ofList (rest.drop 2)⟩)

/-- What can be told from a base label is the kind but for its frame offset. -/
theorem read?_baseLabel (kind : Kind) :
    read? kind.baseLabel.toList = some (kind.withFrameOffset none) := by
  have hletters := List.all_eq_true.1 kind.name_word.2
  have hends : EndsWord (segment ": " Symbol.text kind.payload) := by
    cases kind.payload with
    | none => exact endsWord_empty
    | some symbol => exact endsWord_append_of_head? (c := ':') rfl rfl _
  -- behind the name stands the spelling, and it is found there
  have hspelling : (if (segment ": " Symbol.text kind.payload).toList = [] then none
      else some (Symbol.mk (String.ofList
        ((segment ": " Symbol.text kind.payload).toList.drop 2)))) = kind.payload := by
    cases kind.payload with
    | none => rfl
    | some symbol =>
      have htail : (": " ++ symbol.text).toList = ':' :: ' ' :: symbol.text.toList := by
        rw [String.toList_append]
        rfl
      rw [segment, Option.elim_some, htail, if_neg (List.cons_ne_nil _ _), List.drop_succ_cons,
        List.drop_succ_cons, List.drop_zero, String.ofList_toList]
  unfold read?
  dsimp only
  rw [baseLabel_eq_segment, String.toList_append, takeWhile_append_eq_left hletters hends,
    dropWhile_append_eq_right hletters hends, String.ofList_toList, hspelling, ofParts?_eq]

theorem baseLabel_eq_iff {kind other : Kind} :
    kind.baseLabel = other.baseLabel ↔
      kind.withFrameOffset none = other.withFrameOffset none := by
  constructor
  · intro h
    rw [← Option.some_inj, ← read?_baseLabel, h, read?_baseLabel]
  · intro h
    rw [← baseLabel_withFrameOffset none kind, h, baseLabel_withFrameOffset]

@[simp] theorem payload_withFrameOffset (offset : Option Nat) (kind : Kind) :
    (kind.withFrameOffset offset).payload = kind.payload := by
  cases kind <;> rfl

@[simp] theorem ctorIdx_withFrameOffset (offset : Option Nat) (kind : Kind) :
    (kind.withFrameOffset offset).ctorIdx = kind.ctorIdx := by
  cases kind <;> rfl

/-- The names of the kinds, in the order in which the kinds are declared. -/
def names : List String :=
  plain.map name ++ ["Int", "Id", "RelOp", "AddOp", "MultOp"]

theorem names_getElem? (kind : Kind) : names[kind.ctorIdx]? = some kind.name := by
  cases kind <;> rfl

/-- Kinds that are of one variant and have the same spelling differ in their frame offsets at
most. -/
theorem withFrameOffset_none_eq_iff {kind other : Kind} :
    kind.withFrameOffset none = other.withFrameOffset none ↔
      kind.ctorIdx = other.ctorIdx ∧ kind.payload = other.payload := by
  constructor
  · intro h
    have hctor := congrArg Kind.ctorIdx h
    have hpayload := congrArg payload h
    rw [ctorIdx_withFrameOffset, ctorIdx_withFrameOffset] at hctor
    rw [payload_withFrameOffset, payload_withFrameOffset] at hpayload
    exact ⟨hctor, hpayload⟩
  · rintro ⟨hctor, hpayload⟩
    have hname : kind.name = other.name := by
      rw [← Option.some_inj, ← names_getElem?, hctor, names_getElem?]
    rw [← Option.some_inj, ← ofParts?_eq, ← ofParts?_eq, hname, hpayload]

end Kind

/-! ## Number fields -/

/-- A number field is the digits of the number, the colon, and blanks. -/
theorem toList_numberField (number : Nat) :
    (numberField number).toList
      = Nat.toDigits 10 number ++
          ':' :: List.replicate (3 - (Nat.toDigits 10 number).length) ' ' := by
  unfold numberField
  dsimp only
  rw [String.toList_append, String.toList_append, toList_blanks, Nat.toList_repr,
    ← String.length_toList, Nat.toList_repr, List.append_assoc]
  rfl

/-- **A number field is as wide as it has to be**, and four characters at least. -/
theorem length_numberField (number : Nat) :
    (numberField number).length = max 4 ((Nat.toDigits 10 number).length + 1) := by
  rw [← String.length_toList, toList_numberField, List.length_append, List.length_cons,
    List.length_replicate]
  omega

/-- **What can be read of a text that begins with a number field**: the number, and the text that
follows the field. -/
def readField (text : List Char) : Nat × List Char :=
  let digits := text.takeWhile Char.isDigit
  (Nat.ofDigitChars 10 digits 0, text.drop (max 4 (digits.length + 1)))

theorem readField_numberField_append (number : Nat) (rest : String) :
    readField (numberField number ++ rest).toList = (number, rest.toList) := by
  have hdigits : ((numberField number ++ rest).toList).takeWhile Char.isDigit
      = Nat.toDigits 10 number := by
    rw [String.toList_append, toList_numberField, List.append_assoc, List.cons_append]
    refine takeWhile_append_eq_left
      (fun c hc => Nat.isDigit_of_mem_toDigits (by decide) (by decide) hc) ?_
    rintro _ ⟨⟩
    rfl
  unfold readField
  dsimp only
  rw [hdigits, ← length_numberField, Nat.ofDigitChars_ten_toDigits, String.toList_append,
    ← String.length_toList, List.drop_left]

/-- **A number field ends by itself**, whatever stands behind it. -/
theorem numberField_append_inj {number other : Nat} {rest rest' : String} :
    numberField number ++ rest = numberField other ++ rest' ↔ number = other ∧ rest = rest' := by
  constructor
  · intro h
    have hread : (number, rest.toList) = (other, rest'.toList) := by
      rw [← readField_numberField_append, h, readField_numberField_append]
    obtain ⟨hnumber, hrest⟩ := Prod.mk.inj hread
    exact ⟨hnumber, String.toList_inj.1 hrest⟩
  · rintro ⟨rfl, rfl⟩
    rfl

/-! ## Both -/

/-- **Base labels and number fields say where they end.** Two kinds have the same base label if and
only if they are of the same variant and have the same spelling, which may be any text at all; a
frame offset makes no difference. Two number fields with a text behind each are the same text if
and only if the numbers are the same and the texts behind them are. And a number field has all the
digits of its number in front and the colon after them, however many they are; with the blanks that
may follow it is four characters wide, or one wider than the digits where that is more. -/
theorem baseLabel_numberField_delimited :
    (∀ kind other : Kind, kind.baseLabel = other.baseLabel ↔
      kind.ctorIdx = other.ctorIdx ∧ kind.payload = other.payload) ∧
      (∀ (number other : Nat) (rest rest' : String),
        numberField number ++ rest = numberField other ++ rest' ↔ number = other ∧ rest = rest') ∧
      ∀ number : Nat, Nat.toDigits 10 number ++ [':'] <+: (numberField number).toList ∧
        (numberField number).length = max 4 ((Nat.toDigits 10 number).length + 1) := by
  refine ⟨fun kind other => Kind.baseLabel_eq_iff.trans Kind.withFrameOffset_none_eq_iff,
    fun number other rest rest' => numberField_append_inj, fun number =>
      ⟨?_, length_numberField number⟩⟩
  rw [toList_numberField, List.prefix_append_right_inj]
  exact List.cons_prefix_cons.2 ⟨rfl, List.nil_prefix⟩

/-- The spelling continues the name of another kind and brings in a line of its own, but the
separator comes before it. -/
example : (Kind.int ⟨"Type\n2:  IntType"⟩).baseLabel ≠ Kind.intType.baseLabel := by decide

end SyntaxOutline
