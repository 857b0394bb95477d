import Mathlib.Data.List.TakeWhile
import Mathlib.Data.Nat.Digits.Defs

/-! Reading values off the front of a text. A printed text is read back when its reader makes
the printed value of it whatever follows, as long as what follows cannot be taken for more
of the same.
-/

namespace Reading

/-- A reader takes a value off the front of a text or refuses the text. -/
abbrev TextReader (α : Type) : Type := StateT (List Char) Option α

variable {α β : Type}

-----------------------------------------------------------------------------------------
-- Readers
-----------------------------------------------------------------------------------------

/-- A fixed word. -/
def keyword (word : String) : TextReader Unit := fun text =>
  if word.toList.isPrefixOf text then some ((), text.drop word.toList.length) else none

/-- What a reader takes, or nothing where it refuses. -/
def optionally (read : TextReader α) : TextReader (Option α) := fun text =>
  match read text with
  | some (value, rest) => some (some value, rest)
  | none => some (none, text)

/-- What the first reader takes, or the second one where the first refuses. -/
def either (first second : TextReader α) : TextReader α := fun text =>
  (first text).orElse (fun _ => second text)

/-- The inside of a quoted text and its closing quote; a doubled quote stands for one. -/
def quotedBody (quote : Char) : List Char → Option (List Char × List Char)
  | [] => none
  | [c] => if c = quote then some ([], []) else none
  | c :: d :: rest =>
      if c = quote then
        if d = quote then
          (quotedBody quote rest).map (fun read => (quote :: read.1, read.2))
        else
          some ([], d :: rest)
      else
        (quotedBody quote (d :: rest)).map (fun read => (c :: read.1, read.2))

/-- A text in quotes. -/
def quoted (quote : Char) : TextReader (List Char)
  | c :: rest => if c = quote then quotedBody quote rest else none
  | [] => none

/-- An unsigned number: all the digits there are, at least one. -/
def number : TextReader Nat := fun text =>
  if (text.takeWhile Char.isDigit).isEmpty then
    none
  else
    some (Nat.ofDigitChars 10 (text.takeWhile Char.isDigit) 0, text.dropWhile Char.isDigit)

/-- Further items, each after a separator, for as long as there are any. -/
def further (separator : String) (item : TextReader α) : Nat → TextReader (List α)
  | 0 => pure []
  | fuel + 1 => do
      let next ← optionally (do
        keyword separator
        item)
      match next with
      | none => pure []
      | some value => do
          let rest ← further separator item fuel
          pure (value :: rest)

/-- One item and those that follow after separators. A text has no more items than
characters, which bounds the search.
-/
def separated (separator : String) (item : TextReader α) : TextReader (List α) := do
  let first ← item
  let text ← get
  let rest ← further separator item text.length
  pure (first :: rest)

/-- A reader that has to take the whole text. -/
def readAll (read : TextReader α) (text : String) : Option α :=
  match read text.toList with
  | some (value, []) => some value
  | _ => none

-----------------------------------------------------------------------------------------
-- Reading back
-----------------------------------------------------------------------------------------

/-- The reader takes exactly this text for this value whenever something of the kind
`follow` comes after.
-/
def ReadsBack (read : TextReader α) (text : List Char) (value : α) (follow : List Char → Prop)
    : Prop :=
  ∀ rest, follow rest → read (text ++ rest) = some (value, rest)

/-- Anything may come after. -/
def Anything (_ : List Char) : Prop := True

/-- What follows does not start with a given character. -/
def NotFirst (c : Char) (rest : List Char) : Prop := rest.head? ≠ some c

/-- What follows does not start with a digit. -/
def NoDigitFirst (rest : List Char) : Prop := ∀ c, rest.head? = some c → c.isDigit = false

theorem bind_apply (first : TextReader α) (next : α → TextReader β) (text : List Char)
    : (first >>= next) text = (first text).bind (fun read => next read.1 read.2) := rfl

/-- The rule for readers one after the other: what the second text starts with is what
follows the first.
-/
theorem ReadsBack.bind {first : TextReader α} {next : α → TextReader β} {text₁ text₂ : List Char}
    {value : α} {result : β} {follow₁ follow₂ : List Char → Prop}
    (here : ReadsBack first text₁ value follow₁)
    (there : ReadsBack (next value) text₂ result follow₂)
    (meets : ∀ rest, follow₂ rest → follow₁ (text₂ ++ rest))
    : ReadsBack (first >>= next) (text₁ ++ text₂) result follow₂ := by
  intro rest after
  rw [bind_apply, List.append_assoc, here _ (meets rest after)]
  exact there rest after

/-- The rule for a result that is computed from what was read. -/
theorem ReadsBack.result {read : TextReader α} {text : List Char} {value : α} (f : α → β)
    {follow : List Char → Prop} (here : ReadsBack read text value follow)
    : ReadsBack (read >>= fun value => pure (f value)) text (f value) follow := by
  intro rest after
  rw [bind_apply, here rest after]
  rfl

theorem ReadsBack.weaken {read : TextReader α} {text : List Char} {value : α}
    {follow follow' : List Char → Prop} (here : ReadsBack read text value follow)
    (less : ∀ rest, follow' rest → follow rest)
    : ReadsBack read text value follow' := by
  intro rest after
  exact here rest (less rest after)

/-- A text that is read whole is read. -/
theorem ReadsBack.readAll {read : TextReader α} {text : String} {value : α}
    {follow : List Char → Prop} (here : ReadsBack read text.toList value follow)
    (alone : follow [])
    : readAll read text = some value := by
  have whole := here [] alone
  rw [List.append_nil] at whole
  rw [Reading.readAll, whole]

-----------------------------------------------------------------------------------------
-- Words and optional parts
-----------------------------------------------------------------------------------------

theorem keyword_append (word : String) (rest : List Char)
    : keyword word (word.toList ++ rest) = some ((), rest) := by
  have front : word.toList.isPrefixOf (word.toList ++ rest) = true :=
    List.isPrefixOf_iff_prefix.mpr (List.prefix_append _ _)
  rw [keyword, if_pos front, List.drop_left]

theorem keyword_reads (word : String) : ReadsBack (keyword word) word.toList () Anything := by
  intro rest _
  exact keyword_append word rest

/-- A word is refused in front of a text that does not start with it. -/
theorem keyword_refuses {word : String} {text : List Char}
    (other : word.toList.isPrefixOf text = false)
    : keyword word text = none := by
  rw [keyword, if_neg (by rw [other]; exact Bool.false_ne_true)]

/-- A word is refused where another one stands whose first characters differ. -/
theorem keyword_apart {word other : String} (count : Nat) (short : count ≤ word.toList.length)
    (inside : count ≤ other.toList.length)
    (differ : word.toList.take count ≠ other.toList.take count) (rest : List Char)
    : keyword word (other.toList ++ rest) = none := by
  refine keyword_refuses ?_
  rw [Bool.eq_false_iff, ne_eq, List.isPrefixOf_iff_prefix]
  rintro ⟨more, shape⟩
  have same := congrArg (List.take count) shape
  rw [List.take_append_of_le_length short, List.take_append_of_le_length inside] at same
  exact differ same

/-- A sequence that starts with a refused word is refused. -/
theorem bind_refuses {first : TextReader α} {next : α → TextReader β} {text : List Char}
    (refused : first text = none)
    : (first >>= next) text = none := by
  rw [bind_apply, refused]
  rfl

theorem ReadsBack.optionally {read : TextReader α} {text : List Char} {value : α}
    {follow : List Char → Prop} (here : ReadsBack read text value follow)
    : ReadsBack (optionally read) text (some value) follow := by
  intro rest after
  rw [Reading.optionally, here rest after]

/-- An optional part is absent where its reader refuses. -/
theorem optionally_absent {read : TextReader α} {follow : List Char → Prop}
    (refused : ∀ rest, follow rest → read rest = none)
    : ReadsBack (optionally read) [] none follow := by
  intro rest after
  rw [Reading.optionally, List.nil_append, refused rest after]

-----------------------------------------------------------------------------------------
-- Alternatives
-----------------------------------------------------------------------------------------

theorem ReadsBack.first {first : TextReader α} {text : List Char} {value : α}
    {follow : List Char → Prop} (here : ReadsBack first text value follow)
    (second : TextReader α)
    : ReadsBack (either first second) text value follow := by
  intro rest after
  rw [either, here rest after]
  rfl

/-- The second reader takes what the first one refuses. -/
theorem ReadsBack.second {second : TextReader α} {text : List Char} {value : α}
    {follow : List Char → Prop} (here : ReadsBack second text value follow)
    {first : TextReader α} (refused : ∀ rest, first (text ++ rest) = none)
    : ReadsBack (either first second) text value follow := by
  intro rest after
  rw [either, refused rest, here rest after]
  rfl

-----------------------------------------------------------------------------------------
-- Quoted texts and numbers
-----------------------------------------------------------------------------------------

/-- Double a character wherever it stands. -/
def doubling (quote : Char) (name : List Char) : List Char :=
  name.flatMap (fun c => if c = quote then [quote, quote] else [c])

/-- A doubled name and a closing quote give the name back, by induction along it. -/
theorem quotedBody_doubling (quote : Char) (name rest : List Char)
    (after : NotFirst quote rest)
    : quotedBody quote (doubling quote name ++ quote :: rest) = some (name, rest) := by
  induction name with
  | nil =>
      cases rest with
      | nil => simp [doubling, quotedBody]
      | cons d rest =>
          have other : d ≠ quote := fun same => after (by rw [same]; rfl)
          simp [doubling, quotedBody, other]
  | cons c name ih =>
      by_cases same : c = quote
      · subst same
        have step : doubling c (c :: name) = c :: c :: doubling c name := by
          simp [doubling]
        rw [step, List.cons_append, List.cons_append, quotedBody, if_pos rfl, if_pos rfl, ih]
        rfl
      · have step : doubling quote (c :: name) = c :: doubling quote name := by
          simp [doubling, same]
        -- the reader looks one character ahead, and there is one: the closing quote
        obtain ⟨d, ahead, shape⟩ :
            ∃ d ahead, doubling quote name ++ quote :: rest = d :: ahead := by
          cases doubling quote name with
          | nil => exact ⟨quote, rest, rfl⟩
          | cons d others => exact ⟨d, others ++ quote :: rest, rfl⟩
        rw [shape] at ih
        rw [step, List.cons_append, shape, quotedBody, if_neg same, ih]
        rfl

/-- A name in quotes with its own quotes doubled is read back, unless another quote follows
immediately.
-/
theorem quoted_reads (quote : Char) (name : List Char)
    : ReadsBack (quoted quote) (quote :: (doubling quote name ++ [quote])) name
        (NotFirst quote) := by
  intro rest after
  have body := quotedBody_doubling quote name rest after
  rw [List.cons_append, List.append_assoc, List.singleton_append, quoted, if_pos rfl, body]

theorem dropWhile_digits {digits rest : List Char}
    (all : ∀ c ∈ digits, c.isDigit = true) (after : NoDigitFirst rest)
    : (digits ++ rest).takeWhile Char.isDigit = digits
      ∧ (digits ++ rest).dropWhile Char.isDigit = rest := by
  rw [List.takeWhile_append_of_pos all, List.dropWhile_append_of_pos all]
  cases rest with
  | nil => exact ⟨List.append_nil _, rfl⟩
  | cons c rest =>
      have other : c.isDigit = false := after c rfl
      simp [other]

/-- A printed number is read back, unless another digit follows immediately. -/
theorem number_reads (n : Nat) : ReadsBack number (Nat.toDigits 10 n) n NoDigitFirst := by
  intro rest after
  have digits : ∀ c ∈ Nat.toDigits 10 n, c.isDigit = true := by
    intro c member
    exact Nat.isDigit_of_mem_toDigits (by decide) (by decide) member
  obtain ⟨taken, left⟩ := dropWhile_digits digits after
  have some_digit : ¬ (Nat.toDigits 10 n).isEmpty = true := by
    rw [List.isEmpty_iff]
    exact Nat.toDigits_ne_nil
  rw [number, taken, left, if_neg some_digit, Nat.ofDigitChars_ten_toDigits]

-----------------------------------------------------------------------------------------
-- Lists
-----------------------------------------------------------------------------------------

/-- The texts of items, each after a separator. -/
def listed (separator : String) (texts : List (List Char)) : List Char :=
  texts.flatMap (fun text => separator.toList ++ text)

theorem listed_cons (separator : String) (text : List Char) (texts : List (List Char))
    : listed separator (text :: texts) = separator.toList ++ (text ++ listed separator texts) := by
  rw [listed, List.flatMap_cons, List.append_assoc]
  rfl

theorem listed_length (separator : String) (texts : List (List Char))
    (separates : separator ≠ "")
    : texts.length ≤ (listed separator texts).length := by
  have positive : 0 < separator.toList.length := by
    rw [List.length_pos_iff]
    intro empty
    exact separates (String.toList_eq_nil_iff.mp empty)
  induction texts with
  | nil => exact Nat.le_refl 0
  | cons text rest ih =>
      rw [listed_cons, List.length_append, List.length_append, List.length_cons]
      omega

section Lists

variable {separator : String} {item : TextReader α} {print : α → List Char}
  {follow : List Char → Prop}

/-- The rest of a list starts with what may follow an item. -/
theorem listed_start (between : ∀ rest, follow (separator.toList ++ rest)) (values : List α)
    {rest : List Char} (after : follow rest)
    : follow (listed separator (values.map print) ++ rest) := by
  cases values with
  | nil => exact after
  | cons next others =>
      rw [List.map_cons, listed_cons, List.append_assoc]
      exact between _

/-- Items after separators are read back one by one, by induction along the list. What
follows an item is the next separator or the end of the list.
-/
theorem further_reads (reads : ∀ value, ReadsBack item (print value) value follow)
    (between : ∀ rest, follow (separator.toList ++ rest)) (values : List α) (fuel : Nat)
    (enough : values.length ≤ fuel)
    : ReadsBack (further separator item fuel) (listed separator (values.map print)) values
        (fun rest => follow rest ∧ separator.toList.isPrefixOf rest = false) := by
  induction values generalizing fuel with
  | nil =>
      intro rest after
      cases fuel with
      | zero => rfl
      | succ fuel =>
          have refused : (do keyword separator; item : TextReader α) rest = none :=
            bind_refuses (keyword_refuses after.2)
          rw [List.map_nil, listed, List.flatMap_nil, List.nil_append, further, bind_apply,
            Reading.optionally, refused]
          rfl
  | cons value values ih =>
      cases fuel with
      | zero => simp at enough
      | succ fuel =>
          have tail := ih fuel (Nat.le_of_succ_le_succ enough)
          have step : ReadsBack (do keyword separator; item : TextReader α)
              (separator.toList ++ print value) value follow :=
            (keyword_reads separator).bind (reads value) (fun _ _ => trivial)
          refine step.optionally.bind (tail.result (fun rest => value :: rest)) ?_
          intro rest after
          exact listed_start between values after.1

/-- A separated list of at least one item is read back. -/
theorem separated_reads (reads : ∀ value, ReadsBack item (print value) value follow)
    (between : ∀ rest, follow (separator.toList ++ rest)) (separates : separator ≠ "")
    (value : α) (values : List α)
    : ReadsBack (separated separator item)
        (print value ++ listed separator (values.map print)) (value :: values)
        (fun rest => follow rest ∧ separator.toList.isPrefixOf rest = false) := by
  intro rest after
  have first : follow (listed separator (values.map print) ++ rest) :=
    listed_start between values after.1
  have enough : values.length ≤ (listed separator (values.map print) ++ rest).length := by
    have length := listed_length separator (values.map print) separates
    rw [List.length_map] at length
    rw [List.length_append]
    omega
  have tail := further_reads reads between values _ enough rest after
  rw [separated, bind_apply, List.append_assoc, reads value _ first]
  rw [Option.bind_some, bind_apply]
  have got : (get : TextReader (List Char)) (listed separator (values.map print) ++ rest)
      = some (listed separator (values.map print) ++ rest,
          listed separator (values.map print) ++ rest) := rfl
  rw [got, Option.bind_some, bind_apply, tail]
  rfl

end Lists

end Reading
