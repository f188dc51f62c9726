import EntitySql.Proofs.Calendar.ReadBack
import EntitySql.Proofs.Outcome
import EntitySql.Value.Reading
import EntitySql.Value.Text

/-!
# Values read back from their texts

An integer, a date or a date with a time that comes back as text, with or without blanks around it,
is read as what it was. An integer is read with 32 bits exactly where it fits into them.
-/

namespace EntitySql

open Text Number

/-- A numeral has no blanks. -/
theorem Number.IsNumeral.isTrimmed {s : List Char} {n : Int} (h : IsNumeral s n) :
    IsTrimmed s := by
  obtain ⟨negative, w, rfl, -, hdigit, -⟩ := h
  apply isTrimmed_of_forall
  intro c hc
  rcases List.mem_append.1 hc with hsign | hw
  · cases negative with
    | false => cases hsign
    | true =>
      rw [List.mem_singleton.1 hsign]
      rfl
  · exact not_isBlank_of_isDigit (hdigit c hw)

namespace Value

variable {before after : String}

/-- The text of a value between blanks, as a driver may hand it back. -/
def surrounded (before : String) (v : Value) (after : String) : Value :=
  .string (before ++ v.text ++ after)

theorem readText_surrounded {α : Type} {type : BaseType} {read? : List Char → Option α}
    {text : String} {a : α} (hbefore : ∀ c ∈ before.toList, isBlank c = true)
    (hafter : ∀ c ∈ after.toList, isBlank c = true) (htrimmed : IsTrimmed text.toList)
    (hread : read? text.toList = some a) :
    readText type read? (before ++ text ++ after) = .ok a := by
  rw [readText, String.toList_append, String.toList_append,
    trim_surrounded hbefore hafter htrimmed, hread]

theorem readInt32_of_readInt64 {v : Value} {n : Int64} (h : v.readInt64 = .ok n) :
    (-2 ^ 31 ≤ n.toInt ∧ n.toInt < 2 ^ 31 →
      ∃ m : Int32, m.toInt = n.toInt ∧ v.readInt32 = .ok m) ∧
    (¬ (-2 ^ 31 ≤ n.toInt ∧ n.toInt < 2 ^ 31) →
      v.readInt32 = .error (.schema (.beyondInt32 n))) := by
  rw [← int32?_eq_none, readInt32]
  constructor
  · intro hrange
    obtain ⟨m, hm⟩ : ∃ m, int32? n.toInt = some m :=
      Option.ne_none_iff_exists'.1 fun hnone ↦ int32?_eq_none.1 hnone hrange
    refine ⟨m, int32?_eq_some.1 hm, bind_eq_ok.2 ⟨n, h, ?_⟩⟩
    rw [hm]
  · intro hnone
    apply bind_eq_error.2
    exact .inr ⟨n, h, by rw [hnone]⟩

/-- Integers, dates and dates with times are read back from their texts, whatever blanks stand
around these. An integer, or the text of one, is read with 32 bits as what it is where it fits
into them, and is refused elsewhere. -/
theorem texts_read_back (hbefore : ∀ c ∈ before.toList, isBlank c = true)
    (hafter : ∀ c ∈ after.toList, isBlank c = true) :
    (∀ n, (surrounded before (.int n) after).readInt64 = .ok n) ∧
    (∀ d, (surrounded before (.date d) after).readDate = .ok d) ∧
    (∀ t, (surrounded before (.dateTime t) after).readDateTime = .ok t) ∧
    ∀ (n : Int64) (v : Value), v = .int n ∨ v = surrounded before (.int n) after →
      (-2 ^ 31 ≤ n.toInt ∧ n.toInt < 2 ^ 31 →
        ∃ m : Int32, m.toInt = n.toInt ∧ v.readInt32 = .ok m) ∧
      (¬ (-2 ^ 31 ≤ n.toInt ∧ n.toInt < 2 ^ 31) →
        v.readInt32 = .error (.schema (.beyondInt32 n))) := by
  have hint (n : Int64) : (surrounded before (.int n) after).readInt64 = .ok n := by
    have hnumeral := isNumeral_toString n.toInt
    have hread : readInt64? (toString n.toInt).toList = some n := by
      rw [readInt64?, hnumeral.integer?_eq, Option.bind_some, int64?_eq_some]
    exact readText_surrounded hbefore hafter hnumeral.isTrimmed hread
  refine ⟨hint, fun d ↦ ?_, fun t ↦ ?_, fun n v hv ↦ ?_⟩
  · have htext : (String.ofList d.write).toList = d.write := String.toList_ofList
    apply readText_surrounded hbefore hafter
    · rw [text, htext]
      exact isTrimmed_of_forall fun c ↦ Date.not_isBlank_of_mem_write
    · rw [text, htext, d.read?_write]
  · have htext : (String.ofList (t.write ' ')).toList = t.write ' ' := String.toList_ofList
    apply readText_surrounded hbefore hafter
    · rw [text, htext]
      exact t.isTrimmed_write
    · rw [text, htext, t.read?_write]
  · rcases hv with rfl | rfl
    · exact readInt32_of_readInt64 rfl
    · exact readInt32_of_readInt64 (hint n)

/-- The least integer, and a leap day with a fraction of a second, among tabs and line ends. -/
theorem texts_read_back_among_blanks :
    let d : Date := ⟨2024, 2, 29, by decide, by decide, by decide⟩
    let t : DateTime := ⟨d, 23, 59, 59, 120000, by decide, by decide, by decide, by decide⟩
    (∀ c ∈ " \t".toList, isBlank c = true) ∧ (∀ c ∈ "\n".toList, isBlank c = true) ∧
      t.write ' ' = "2024-02-29 23:59:59.000120".toList ∧
      (surrounded " \t" (.int Int64.minValue) "\n").readInt64 = .ok Int64.minValue ∧
      (surrounded " \t" (.date d) "\n").readDate = .ok d ∧
      (surrounded " \t" (.dateTime t) "\n").readDateTime = .ok t ∧
      (∃ m : Int32, m.toInt = -2147483648 ∧
        (surrounded " \t" (.int (-2147483648)) "\n").readInt32 = .ok m) ∧
      (Value.int 2147483648).readInt32 = .error (.schema (.beyondInt32 2147483648)) := by
  intro d t
  have hbefore : ∀ c ∈ " \t".toList, isBlank c = true := List.all_eq_true.1 rfl
  have hafter : ∀ c ∈ "\n".toList, isBlank c = true := List.all_eq_true.1 rfl
  obtain ⟨hint, hdate, hdateTime, hint32⟩ := texts_read_back hbefore hafter
  refine ⟨hbefore, hafter, by decide, hint _, hdate d, hdateTime t, ?_, ?_⟩
  · exact (hint32 (-2147483648) _ (.inr rfl)).1 (by decide)
  · exact (hint32 2147483648 _ (.inl rfl)).2 (by decide)

end Value

end EntitySql
