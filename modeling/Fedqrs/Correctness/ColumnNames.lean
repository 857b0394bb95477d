import Fedqrs.Core.Columns
import Fedqrs.Engine.Collect

/-! Whether a column's name means the same column as a key and in an expression. A key is read
as an identifier first, which changes the name unless it is a lower-case word or no
identifier at all.
-/

namespace Fedqrs

-----------------------------------------------------------------------------------------
-- What the parser promises
-----------------------------------------------------------------------------------------

/-- A part as it stands in the text, quotes included. -/
def IdentPart.written (part : IdentPart) : List Char :=
  match part.quote with
  | some quote => quote :: (part.value.toList ++ [quote])
  | none => part.value.toList

/-- What is documented of the parser: the parts it finds stand in the text in this order, as
they were written, with dots between them.
-/
structure IdentParser.Documented (parse : IdentParser) : Prop where
  written : ∀ text parts, parse text = some parts →
    List.Sublist (['.'].intercalate (parts.map IdentPart.written)) text.toList

/-- The identifier made of words is parsed as documented. -/
theorem wordParts_documented : wordParts.Documented where
  written text parts parsed := by
    unfold wordParts at parsed
    dsimp only at parsed
    split at parsed
    · cases parsed
      have words : (fun word => IdentPart.written { value := String.ofList word, quote := none })
          = id := by
        funext word
        simp [IdentPart.written]
      rw [List.map_map]
      change List.Sublist (['.'].intercalate (List.map (fun word => IdentPart.written
        { value := String.ofList word, quote := none }) _)) _
      rw [words, List.map_id, List.intercalate_splitOn]
    · cases parsed

-----------------------------------------------------------------------------------------
-- The names that survive
-----------------------------------------------------------------------------------------

/-- The names that mean themselves as a key: wherever the text is an identifier of one to four
parts, it is one unquoted part, and in lower case.
-/
def PlainKeyName (parse : IdentParser) (name : String) : Prop :=
  ∀ parts, parse name = some parts → 1 ≤ parts.length → parts.length ≤ 4 →
    parts = [{ value := name, quote := none }] ∧ lowerAscii name = name

/-- A name means one column of a relation: in an expression, as a collected key, and as a key
on either side of a join.
-/
structure MeansOneColumn (parse : IdentParser) (name : String) (columns : List String)
    : Prop where
  expression : ∀ functions, ∃ expr ref, toDfExpr functions (.column none name) = .ok expr
    ∧ expr.columnRef = some ref ∧ ref.column "in_0" columns = some name
  collected : (collectDistinctColumn parse name).column "build" columns = some name
  left : ∀ leftKeys rightKeys (index : Nat), leftKeys[index]? = some name →
    ∃ ref : ColumnRef, (joinFrameColumns parse leftKeys rightKeys).1[index]? = some ref
      ∧ ref.column "in_left" columns = some name
  right : ∀ leftKeys rightKeys (index : Nat), rightKeys[index]? = some name →
    ∃ ref : ColumnRef, (joinFrameColumns parse leftKeys rightKeys).2[index]? = some ref
      ∧ ref.column "in_right" columns = some name

theorem length_lowerAscii (text : String)
    : (lowerAscii text).toList.length = text.toList.length := by
  simp [lowerAscii]

/-- A part is no longer than what is written of it, and shorter if it is quoted. -/
theorem IdentPart.length_written (part : IdentPart)
    : part.normalized.toList.length ≤ part.written.length
      ∧ (part.quote ≠ none → part.normalized.toList.length < part.written.length) := by
  rcases part with ⟨value, quote⟩
  cases quote with
  | none =>
      refine ⟨?_, fun quoted => absurd rfl quoted⟩
      exact Nat.le_of_eq (length_lowerAscii value)
  | some quote =>
      have quotes : (written ⟨value, some quote⟩).length = value.toList.length + 2 := by
        simp [written]
      have longer : value.toList.length < (written ⟨value, some quote⟩).length := by
        omega
      exact ⟨Nat.le_of_lt longer, fun _ => longer⟩

/-- The last of several parts is shorter than all of them with their dots. -/
theorem length_last_part (first : IdentPart) (others : List IdentPart) {last : IdentPart}
    (ends : others.getLast? = some last)
    : last.written.length
      < (['.'].intercalate ((first :: others).map IdentPart.written)).length := by
  induction others generalizing first with
  | nil => cases ends
  | cons next rest ih =>
      rw [List.map_cons, List.map_cons, List.intercalate_cons_cons]
      cases rest with
      | nil =>
          cases ends
          simp
          omega
      | cons another rest =>
          have later := ih next (by rw [← ends, List.getLast?_cons_cons])
          simp only [List.map_cons, List.length_append] at later ⊢
          omega

/-- What a list of up to four parts refers to, by its last part. -/
theorem fromIdents_normalized {parts : List IdentPart} {last : IdentPart}
    (ends : parts.getLast? = some last) (some_part : 1 ≤ parts.length)
    (few : parts.length ≤ 4)
    : ∃ ref, ColumnRef.fromIdents (parts.map IdentPart.normalized) = some ref
        ∧ ref.name = last.normalized := by
  refine ⟨{ qualifier := (parts.map IdentPart.normalized).dropLast, name := last.normalized },
    ?_, rfl⟩
  rw [ColumnRef.fromIdents, List.length_map, if_pos ⟨some_part, few⟩, List.getLast?_map, ends]
  rfl

/-- A key that keeps its name is a plain one: a quoted part, and a part after a dot, is
shorter than the text, and a word is as long only if it is all of the text.
-/
theorem plainKeyName_of_ofText {parse : IdentParser} (documented : parse.Documented)
    {name : String} (same : (ColumnRef.ofText parse name).name = name)
    : PlainKeyName parse name := by
  intro parts parsed some_part few
  have within := documented.written name parts parsed
  cases parts with
  | nil => cases some_part
  | cons first others =>
      obtain ⟨last, ends⟩ := List.getLast?_isSome.mpr (List.cons_ne_nil first others)
        |> Option.isSome_iff_exists.mp
      obtain ⟨ref, refers, named⟩ := fromIdents_normalized ends some_part few
      have kept : last.normalized = name := by
        rw [ColumnRef.ofText, parsed, Option.getD_some, refers, Option.getD_some, named] at same
        exact same
      have long := within.length_le
      cases others with
      | nil =>
          have only : first = last := Option.some.inj ends
          subst only
          obtain ⟨bound, quotedBound⟩ := first.length_written
          rw [List.map_singleton, List.intercalate_singleton] at within long
          rcases first with ⟨value, quote⟩
          cases quote with
          | some quote =>
              have short := quotedBound (Option.some_ne_none quote)
              rw [kept] at short
              omega
          | none =>
              have lower : lowerAscii value = name := kept
              have whole : value.toList.length = name.toList.length := by
                rw [← length_lowerAscii value, lower]
              have all : value = name := String.toList_inj.mp (within.eq_of_length whole)
              subst all
              exact ⟨rfl, lower⟩
      | cons next rest =>
          have tail : (next :: rest).getLast? = some last := by
            rw [← ends, List.getLast?_cons_cons]
          have short := length_last_part first (next :: rest) tail
          have bound := last.length_written.1
          rw [kept] at bound
          omega

/-- A plain key is taken as it is. -/
theorem ofText_of_plainKeyName {parse : IdentParser} {name : String}
    (plain : PlainKeyName parse name)
    : ColumnRef.ofText parse name = .verbatim name := by
  unfold ColumnRef.ofText
  cases parsed : parse name with
  | none => rfl
  | some parts =>
      rw [Option.getD_some]
      by_cases few : 1 ≤ parts.length ∧ parts.length ≤ 4
      · obtain ⟨word, lower⟩ := plain parts parsed few.1 few.2
        subst word
        have same : IdentPart.normalized { value := name, quote := none } = name := lower
        simp only [List.map_singleton, same]
        rfl
      · rw [ColumnRef.fromIdents, List.length_map, if_neg few]
        rfl

/-- A key at an index of a join's keys. -/
theorem ofText_getElem {parse : IdentParser} {keys : List String} {index : Nat}
    {name : String} (there : keys[index]? = some name)
    : (keys.map (ColumnRef.ofText parse))[index]? = some (.ofText parse name) := by
  rw [List.getElem?_map, there]
  rfl

/-- A column's name means that column as a key, as it does in an expression, exactly when it
is no identifier of one to four parts or one unquoted word in lower case.
-/
theorem keyNames_mean_iff (parse : IdentParser) (documented : parse.Documented)
    (name : String) (columns : List String) (present : name ∈ columns)
    : MeansOneColumn parse name columns ↔ PlainKeyName parse name := by
  constructor
  · intro means
    exact plainKeyName_of_ofText documented (ColumnRef.column_eq_some means.collected)
  · intro plain
    have same := ofText_of_plainKeyName plain
    have stands := fun table => ColumnRef.verbatim_column present table
    refine ⟨?_, ?_, ?_, ?_⟩
    · intro functions
      exact ⟨_, _, rfl, rfl, stands "in_0"⟩
    · rw [collectDistinctColumn, same]
      exact stands "build"
    · intro leftKeys rightKeys index there
      refine ⟨_, ofText_getElem there, ?_⟩
      rw [same]
      exact stands "in_left"
    · intro leftKeys rightKeys index there
      refine ⟨_, ofText_getElem there, ?_⟩
      rw [same]
      exact stands "in_right"

/-- A lower-case word next to names that differ from it in case. -/
theorem keyNames_mean_lower
    : MeansOneColumn wordParts "order_id" ["Order_Id", "order_id"] :=
  (keyNames_mean_iff wordParts wordParts_documented "order_id" ["Order_Id", "order_id"]
    (by decide)).mpr (by
      intro parts parsed _ _
      cases parsed
      exact ⟨rfl, rfl⟩)

/-- A name with a capital stands for the wrong column as a key, and a name with a dot for
none, while both stand for their own column in an expression.
-/
theorem keyNames_differ
    : wordParts.Documented
        ∧ (collectDistinctColumn wordParts "Id").column "build" ["Id", "id"] = some "id"
        ∧ (ColumnRef.verbatim "Id").column "in_0" ["Id", "id"] = some "Id"
        ∧ (collectDistinctColumn wordParts "a.b").column "build" ["a.b"] = none
        ∧ (ColumnRef.verbatim "a.b").column "in_0" ["a.b"] = some "a.b"
        ∧ ¬ MeansOneColumn wordParts "Id" ["Id", "id"] := by
  have wrong : (collectDistinctColumn wordParts "Id").column "build" ["Id", "id"] = some "id" := by
    decide
  refine ⟨wordParts_documented, wrong, by decide, by decide, by decide, ?_⟩
  intro means
  have right := means.collected
  rw [wrong] at right
  exact absurd right (by decide)

end Fedqrs
