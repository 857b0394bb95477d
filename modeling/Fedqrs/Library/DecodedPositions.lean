import Fedqrs.Library.DerivedDecoding

/-! The typed positions of a document: at each one that decodes the tag is declared, and the
members that its type does not declare can be dropped.
-/

namespace Fedqrs

variable {ι : Type} {Node : ι → Type} {result : Type}

-----------------------------------------------------------------------------------------
-- Decoding form by form
-----------------------------------------------------------------------------------------

/-- The tag that a document is. -/
def Json.tag (mode : ReadMode) : Json → Except DecodeError TagValue
  | .string value => .ok (.name value)
  | .number value =>
      match mode with
      | .streamed => .error .invalidType
      | .buffered => value.unsigned.map TagValue.index
  | .null | .bool _ | .array _ | .object _ => .error .invalidType

/-- A document is a unit value. -/
def Json.IsUnit (mode : ReadMode) (json : Json) : Prop :=
  json = .null ∨ mode = .buffered ∧ json = .object []

section Forms

variable (grammar : Grammar Node)

theorem decode_array (items : List Json)
    : decode grammar (.array items) = readArray grammar (items.map (decode grammar)) :=
  Json.fold_array _ items

theorem decode_object (members : List (String × Json))
    : decode grammar (.object members)
      = readObject grammar
          (members.map (fun member => (member.1, decode grammar member.2))) :=
  Json.fold_object _ members

theorem decode_tag (mode : ReadMode) (json : Json)
    : readTag mode (decode grammar json) = json.tag mode := by
  cases json with
  | null | bool | number => cases mode <;> rfl
  | string => rfl
  | array items =>
      rw [decode_array]
      cases mode <;> rfl
  | object members =>
      rw [decode_object]
      cases mode <;> rfl

theorem decode_unit {mode : ReadMode} {json : Json} {value : Unit}
    (decoded : decode grammar json (.unit mode) = .ok value)
    : json.IsUnit mode := by
  cases json with
  | null => exact Or.inl rfl
  | bool | number | string => cases decoded
  | array items =>
      rw [decode_array] at decoded
      cases decoded
  | object members =>
      rw [decode_object] at decoded
      cases members with
      | nil =>
          cases mode with
          | streamed => cases decoded
          | buffered => exact Or.inr ⟨rfl, rfl⟩
      | cons member rest => cases mode <;> cases decoded

/-- What is there decodes as an optional value when it does as a value. -/
theorem decode_option {json : Json} (present : json ≠ .null) (inner : Shape ι)
    : decode grammar json (.option inner) = (decode grammar json inner).map some := by
  cases json with
  | null => exact absurd rfl present
  | bool | number | string => rfl
  | array items =>
      rw [decode_array]
      rfl
  | object members =>
      rw [decode_object]
      rfl

theorem decode_array_list (items : List Json) (item : Shape ι)
    : decode grammar (.array items) (.list item)
      = items.mapM (fun json => decode grammar json item) := by
  rw [decode_array]
  exact List.mapM_map

theorem decode_array_node (items : List Json) (type : ι)
    : decode grammar (.array items) (.node type)
      = (grammar type).readItems (items.map (decode grammar)) := by
  rw [decode_array]
  rfl

theorem decode_object_map (members : List (String × Json)) (value : Shape ι)
    : decode grammar (.object members) (.map value)
      = (do
          let entries ←
            members.mapM (fun member => do
              let read ← decode grammar member.2 value
              pure (member.1, read))
          pure (sortedMap entries)
          : Except DecodeError (AList (fun _ : String => value.Value Node))) := by
  rw [decode_object]
  show (List.mapM _ (members.map _) >>= _) = _
  rw [List.mapM_map]
  rfl

theorem decode_object_node (members : List (String × Json)) (type : ι)
    : decode grammar (.object members) (.node type)
      = (grammar type).readMembers
          (members.map (fun member => (member.1, decode grammar member.2))) := by
  rw [decode_object]
  rfl

end Forms

-----------------------------------------------------------------------------------------
-- Typed positions
-----------------------------------------------------------------------------------------

/-- The tag of a document, read as a type whose tag has this name. -/
def Json.tagged (json : Json) (mode : ReadMode) (tag : String) : Except DecodeError TagValue :=
  match json with
  | .object members => tagAmong (Json.tag mode) members tag
  | .array items => tagBefore (Json.tag mode) items tag
  | .null | .bool _ | .number _ | .string _ => .error .invalidType

/-- The fields that a layout declares for a document, those of its variant where it has one. -/
def Layout.fieldsOf (layout : Layout Node result) (json : Json) : List (FieldDecl Node) :=
  match layout.chosen json.tagged with
  | .ok variant => variant.fields
  | .error _ => []

/-- The field that takes a member. -/
def fieldNamed (fields : List (FieldDecl Node)) (key : String) : Option (FieldDecl Node) :=
  fields.find? (fun field => field.name = key)

/-- One document is a part of another that is read as a shape, and has one itself. -/
inductive Child (grammar : Grammar Node) : Shape ι → Json → Shape ι → Json → Prop
  | present {inner json} (present : json ≠ .null) : Child grammar (.option inner) json inner json
  | item {item items json} (inside : json ∈ items)
    : Child grammar (.list item) (.array items) item json
  | value {value members key json} (inside : (key, json) ∈ members)
    : Child grammar (.map value) (.object members) value json
  | member {type members key json field} (inside : (key, json) ∈ members)
    (untagged : (grammar type).isTag key = false)
    (declared : fieldNamed ((grammar type).fieldsOf (.object members)) key = some field)
    : Child grammar (.node type) (.object members) field.shape json
  | positional {type items json field}
    (inside : (field, json)
      ∈ ((grammar type).fieldsOf (.array items)).zip ((grammar type).contents items))
    : Child grammar (.node type) (.array items) field.shape json

/-- A part of a document at any depth, with the shape it is read as. -/
inductive Position (grammar : Grammar Node) : Shape ι → Json → Shape ι → Json → Prop
  | whole {shape json} : Position grammar shape json shape json
  | inside {shape json middle part inner json'} (child : Child grammar shape json middle part)
    (below : Position grammar middle part inner json')
    : Position grammar shape json inner json'

/-- A tag stands for a variant: it is the name of one, or the place of one. -/
def TagValue.Declared (variants : List (Variant Node result)) : TagValue → Prop
  | .name text => ∃ variant ∈ variants, variant.tag = text
  | .index place => place < variants.length

/-- A document's tag stands for a variant, and its name is a declared one. -/
def Layout.TagDeclared (layout : Layout Node result) (json : Json) : Prop :=
  match layout with
  | .struct _ _ => True
  | .tagged tag mode variants =>
      ∃ value, json.tagged mode tag = .ok value ∧ value.Declared variants
  | .names mode values =>
      ∃ value ∈ values,
        json = .string value.1
          ∨ ∃ unit, json = .object [(value.1, unit)] ∧ unit.IsUnit mode

/-- Every key of a document is the tag or a declared field. -/
def Layout.KeysDeclared (layout : Layout Node result) (json : Json) : Prop :=
  ∀ members, json = .object members → ∀ member ∈ members,
    layout.isTag member.1 = true ∨ (fieldNamed (layout.fieldsOf json) member.1).isSome

-----------------------------------------------------------------------------------------
-- What decodes has declared tags
-----------------------------------------------------------------------------------------

/-- A tag that picks a variant stands for one. -/
theorem TagValue.declared_of_pick {variants : List (Variant Node result)} {value : TagValue}
    {variant : Variant Node result} (picked : value.pick variants = .ok variant)
    : value.Declared variants := by
  cases value with
  | name text =>
      cases here : variants.find? (fun variant => variant.tag = text) with
      | none =>
          simp only [TagValue.pick, here] at picked
          cases picked
      | some found =>
          exact ⟨found, List.mem_of_find?_eq_some here, by simpa using List.find?_some here⟩
  | index place =>
      cases here : variants[place]? with
      | none =>
          simp only [TagValue.pick, here] at picked
          cases picked
      | some found => exact (List.getElem?_eq_some_iff.mp here).1

/-- What reads the tag only matters for the tag's value. -/
theorem Layout.chosen_congr {layout : Layout Node result}
    {tagged other : ReadMode → String → Except DecodeError TagValue}
    (same : ∀ mode tag, tagged mode tag = other mode tag)
    : layout.chosen tagged = layout.chosen other := by
  rw [funext (fun mode => funext (same mode))]

theorem tagAmong_decode (grammar : Grammar Node) (members : List (String × Json))
    (mode : ReadMode) (tag : String)
    : tagAmong (readTag mode)
          (members.map (fun member => (member.1, decode grammar member.2))) tag
        = (Json.object members).tagged mode tag := by
  simp only [Json.tagged, tagAmong, List.find?_map, Function.comp_def]
  cases members.find? (fun member => member.1 = tag) with
  | none => rfl
  | some member => exact decode_tag grammar mode member.2

theorem tagBefore_decode (grammar : Grammar Node) (items : List Json) (mode : ReadMode)
    (tag : String)
    : tagBefore (readTag mode) (items.map (decode grammar)) tag
      = (Json.array items).tagged mode tag := by
  cases items with
  | nil => rfl
  | cons first rest => exact decode_tag grammar mode first

/-- An object that is read as a name has one member, of that name and without a value. -/
theorem readNamed_eq_ok {grammar : Grammar Node} {mode : ReadMode}
    {values : List (String × result)} {members : List (String × Json)} {value : result}
    (read
      : readNamed mode values
          (members.map (fun member => (member.1, decode grammar member.2)))
        = .ok value)
    : ∃ name unit, members = [(name, unit)] ∧ nameAmong values name = .ok value
        ∧ unit.IsUnit mode := by
  match members with
  | [] => cases read
  | _ :: _ :: _ => cases read
  | [(name, unit)] =>
      obtain ⟨named, found, later⟩ := Except.bind_eq_ok.mp read
      obtain ⟨_, empty, same⟩ := Except.bind_eq_ok.mp later
      cases same
      exact ⟨name, unit, rfl, found, decode_unit grammar empty⟩

/-- A name that has a value is a declared one. -/
theorem mem_of_nameAmong {values : List (String × result)} {name : String} {value : result}
    (found : nameAmong values name = .ok value)
    : (name, value) ∈ values := by
  unfold nameAmong at found
  cases here : values.lookup name with
  | none =>
      simp only [here] at found
      cases found
  | some other =>
      simp only [here] at found
      cases found
      obtain ⟨before, after, split, _⟩ := List.lookup_eq_some_iff.mp here
      rw [split]
      exact List.mem_append_right before List.mem_cons_self

/-- An object that is read as a declared type is a name or is read by fields. -/
theorem readMembers_cases {grammar : Grammar Node} {layout : Layout Node result}
    {members : List (String × Json)} {value : result}
    (read
      : layout.readMembers (members.map (fun member => (member.1, decode grammar member.2)))
        = .ok value)
    : (∃ mode values name unit, layout = .names mode values ∧ members = [(name, unit)]
          ∧ (name, value) ∈ values ∧ unit.IsUnit mode)
        ∨ layout.readFields (members.map (fun member => (member.1, decode grammar member.2)))
          = .ok value := by
  cases layout with
  | struct | tagged => exact Or.inr read
  | names mode values =>
      obtain ⟨name, unit, only, found, empty⟩ := readNamed_eq_ok read
      exact Or.inl ⟨mode, values, name, unit, rfl, only, mem_of_nameAmong found, empty⟩

namespace Slots

theorem fill_cons (key : String) (reader : Reader Node) (field : FieldDecl Node)
    (rest : List (FieldDecl Node)) (slot : Option (field.shape.Value Node))
    (others : Slots Node rest)
    : fill key reader (field :: rest) (slot, others)
      = if field.name = key then
          match slot with
          | some _ => .error (.duplicateField key)
          | none => (reader field.shape).bind (fun value => .ok (some value, others))
        else
          (fill key reader rest others).bind (fun filled => .ok (slot, filled)) :=
  rfl

/-- A member that a field takes decodes as the field's shape; by induction over the fields. -/
theorem fill_reads {key : String} {reader : Reader Node} {fields : List (FieldDecl Node)}
    {slots filled : Slots Node fields} (ran : fill key reader fields slots = .ok filled)
    {field : FieldDecl Node} (declared : fieldNamed fields key = some field)
    : ∃ value, reader field.shape = .ok value := by
  induction fields with
  | nil => cases declared
  | cons head rest ih =>
      obtain ⟨slot, others⟩ := slots
      by_cases here : head.name = key
      · have found : head = field := by simpa [fieldNamed, here] using declared
        subst found
        rw [fill_cons, if_pos here] at ran
        cases slot with
        | some value => cases ran
        | none =>
            obtain ⟨value, read, _⟩ := Except.bind_eq_ok.mp ran
            exact ⟨value, read⟩
      · rw [fill_cons, if_neg here] at ran
        obtain ⟨next, later, _⟩ := Except.bind_eq_ok.mp ran
        have further : fieldNamed rest key = some field := by
          simpa [fieldNamed, here] using declared
        exact ih later further

theorem fillAll_reads {fields : List (FieldDecl Node)} {members : List (String × Reader Node)}
    {slots filled : Slots Node fields} (ran : fillAll fields members slots = .ok filled)
    {member : String × Reader Node} (inside : member ∈ members) {field : FieldDecl Node}
    (declared : fieldNamed fields member.1 = some field)
    : ∃ value, member.2 field.shape = .ok value := by
  induction members generalizing slots with
  | nil => cases inside
  | cons head rest ih =>
      obtain ⟨next, first, later⟩ := Except.bind_eq_ok.mp ran
      rcases List.mem_cons.mp inside with rfl | further
      · exact fill_reads first declared
      · exact ih later further

theorem fillInOrder_reads {fields : List (FieldDecl Node)} {readers : List (Reader Node)}
    {filled : Slots Node fields} (ran : fillInOrder fields readers = .ok filled)
    {pair : FieldDecl Node × Reader Node} (inside : pair ∈ fields.zip readers)
    : ∃ value, pair.2 pair.1.shape = .ok value := by
  induction fields generalizing readers with
  | nil => cases inside
  | cons head rest ih =>
      cases readers with
      | nil => cases inside
      | cons reader others =>
          obtain ⟨value, first, later⟩ := Except.bind_eq_ok.mp ran
          obtain ⟨next, second, _⟩ := Except.bind_eq_ok.mp later
          rw [List.zip_cons_cons] at inside
          rcases List.mem_cons.mp inside with rfl | further
          · exact ⟨value, first⟩
          · exact ih second further

end Slots

theorem Layout.contents_map {A B : Type} (layout : Layout Node result) (f : A → B)
    (items : List A)
    : layout.contents (items.map f) = (layout.contents items).map f := by
  cases layout with
  | struct | names => rfl
  | tagged tag mode variants => exact List.map_tail.symm

section Decoded

variable {grammar : Grammar Node}

/-- A part of a document that decodes decodes itself; by cases on how it is a part. -/
theorem Child.decodes {shape inner : Shape ι} {json part : Json}
    (child : Child grammar shape json inner part)
    (decoded : ∃ value, decode grammar json shape = .ok value)
    : ∃ value, decode grammar part inner = .ok value := by
  obtain ⟨value, decoded⟩ := decoded
  cases child with
  | present present =>
      rw [decode_option grammar present] at decoded
      cases read : decode grammar json inner with
      | error failure =>
          rw [read] at decoded
          cases decoded
      | ok value => exact ⟨value, rfl⟩
  | item inside =>
      rw [decode_array_list] at decoded
      exact Except.mapM_ok_of_mem decoded inside
  | value inside =>
      rw [decode_object_map] at decoded
      obtain ⟨entries, read, _⟩ := Except.bind_eq_ok.mp decoded
      obtain ⟨entry, here⟩ := Except.mapM_ok_of_mem read inside
      obtain ⟨value, there, _⟩ := Except.bind_eq_ok.mp here
      exact ⟨value, there⟩
  | @member type members key json field inside untagged declared =>
      rw [decode_object_node] at decoded
      rcases readMembers_cases decoded with ⟨_, _, _, _, names, _⟩ | decoded
      · rw [names] at declared
        cases declared
      obtain ⟨variant, chosen, later⟩ := Except.bind_eq_ok.mp decoded
      obtain ⟨_, _, later⟩ := Except.bind_eq_ok.mp later
      obtain ⟨slots, filled, _⟩ := Except.bind_eq_ok.mp later
      rw [Layout.chosen_congr (tagAmong_decode grammar members)] at chosen
      rw [Layout.fieldsOf, chosen] at declared
      have member
          : (key, decode grammar part)
            ∈ (members.map (fun member => (member.1, decode grammar member.2))).filter
                (fun member => !(grammar type).isTag member.1) :=
        List.mem_filter.mpr ⟨List.mem_map.mpr ⟨_, inside, rfl⟩, by simp [untagged]⟩
      exact Slots.fillAll_reads filled member declared
  | @positional type items json field inside =>
      rw [decode_array_node] at decoded
      obtain ⟨variant, chosen, later⟩ := Except.bind_eq_ok.mp decoded
      obtain ⟨slots, filled, _⟩ := Except.bind_eq_ok.mp later
      rw [Layout.chosen_congr (tagBefore_decode grammar items)] at chosen
      rw [Layout.fieldsOf, chosen] at inside
      have pair
          : (field, decode grammar part)
            ∈ variant.fields.zip ((grammar type).contents (items.map (decode grammar))) := by
        rw [Layout.contents_map, List.zip_map_right]
        exact List.mem_map.mpr ⟨_, inside, rfl⟩
      exact Slots.fillInOrder_reads filled pair

/-- So does every part at any depth, by induction on where it is. -/
theorem Position.decodes {shape inner : Shape ι} {json part : Json}
    (position : Position grammar shape json inner part)
    (decoded : ∃ value, decode grammar json shape = .ok value)
    : ∃ value, decode grammar part inner = .ok value := by
  induction position with
  | whole => exact decoded
  | inside child _ ih => exact ih (child.decodes decoded)

/-- A layout that chooses what to read by a document's tag has declared the tag. -/
theorem Layout.tagDeclared_of_chosen {layout : Layout Node result} {json : Json}
    {variant : Variant Node result} (chosen : layout.chosen json.tagged = .ok variant)
    : layout.TagDeclared json := by
  cases layout with
  | struct => trivial
  | tagged tag mode variants =>
      obtain ⟨value, read, picked⟩ := Except.bind_eq_ok.mp chosen
      exact ⟨value, read, TagValue.declared_of_pick picked⟩
  | names => cases chosen

/-- What decodes as a declared type has a declared tag; by cases on its form. -/
theorem tagDeclared_of_decoded {type : ι} {json : Json} {value : Node type}
    (decoded : decode grammar json (.node type) = .ok value)
    : (grammar type).TagDeclared json := by
  cases json with
  | null | bool | number => cases decoded
  | string name =>
      change (grammar type).readName name = .ok value at decoded
      unfold Layout.readName at decoded
      unfold Layout.TagDeclared
      cases declared : grammar type with
      | struct | tagged =>
          rw [declared] at decoded
          cases decoded
      | names mode values =>
          rw [declared] at decoded
          exact ⟨(name, value), mem_of_nameAmong decoded, Or.inl rfl⟩
  | array items =>
      rw [decode_array_node] at decoded
      obtain ⟨variant, chosen, _⟩ := Except.bind_eq_ok.mp decoded
      rw [Layout.chosen_congr (tagBefore_decode grammar items)] at chosen
      exact Layout.tagDeclared_of_chosen chosen
  | object members =>
      rw [decode_object_node] at decoded
      rcases readMembers_cases decoded
        with ⟨mode, values, name, unit, names, only, inside, empty⟩ | decoded
      · rw [names, only]
        exact ⟨(name, value), inside, Or.inr ⟨unit, rfl, empty⟩⟩
      obtain ⟨variant, chosen, _⟩ := Except.bind_eq_ok.mp decoded
      rw [Layout.chosen_congr (tagAmong_decode grammar members)] at chosen
      exact Layout.tagDeclared_of_chosen chosen

end Decoded

-----------------------------------------------------------------------------------------
-- Dropping undeclared members
-----------------------------------------------------------------------------------------

/-- What gives a document without its undeclared members, read as any shape. -/
abbrev Pruner (ι : Type) : Type := Shape ι → Json

/-- The members that a layout reads, each without what its own shape does not declare. -/
def Layout.pruneMembers (layout : Layout Node result) (fields : List (FieldDecl Node))
    (members : List (String × Pruner ι))
    : List (String × Json) :=
  members.filterMap (fun member =>
    if layout.isTag member.1 then
      some (member.1, member.2 .string)
    else
      (fieldNamed fields member.1).map (fun field => (member.1, member.2 field.shape)))

/-- Items as fields in order; what is past the fields stays as it is. -/
def pruneInOrder : List (FieldDecl Node) → List (Pruner ι) → List Json
  | _, [] => []
  | [], pruner :: rest => pruner .string :: pruneInOrder [] rest
  | field :: fields, pruner :: rest => pruner field.shape :: pruneInOrder fields rest

/-- A document that is not read as a declared type stays as it is. -/
def Layout.pruneObject (layout : Layout Node result) (members : List (String × Pruner ι))
    : Json :=
  let whole := Json.object (members.map (fun member => (member.1, member.2 .string)))
  match layout.chosen whole.tagged with
  | .ok variant => .object (layout.pruneMembers variant.fields members)
  | .error _ => whole

def Layout.pruneArray (layout : Layout Node result) (items : List (Pruner ι)) : Json :=
  let whole := Json.array (items.map (fun pruner => pruner .string))
  .array
    (match layout, items with
    | .tagged _ _ _, first :: rest => first .string :: pruneInOrder (layout.fieldsOf whole) rest
    | _, _ => pruneInOrder (layout.fieldsOf whole) items)

section Prune

variable (grammar : Grammar Node)

def pruneItems (items : List (Pruner ι)) : Pruner ι
  | .list item => .array (items.map (fun pruner => pruner item))
  | .option inner => pruneItems items inner
  | .node type => (grammar type).pruneArray items
  | .unit _ | .string | .bool | .unsigned | .signed | .float | .map _ =>
      .array (items.map (fun pruner => pruner .string))

def pruneFields (members : List (String × Pruner ι)) : Pruner ι
  | .map value => .object (members.map (fun member => (member.1, member.2 value)))
  | .option inner => pruneFields members inner
  | .node type => (grammar type).pruneObject members
  | .unit _ | .string | .bool | .unsigned | .signed | .float | .list _ =>
      .object (members.map (fun member => (member.1, member.2 .string)))

/-- The document without the members that no type declares, at any depth. -/
def prune : Json → Pruner ι :=
  Json.fold {
    null := fun _ => .null
    bool := fun value _ => .bool value
    number := fun value _ => .number value
    string := fun value _ => .string value
    array := pruneItems grammar
    object := pruneFields grammar
  }

theorem prune_array (items : List Json) (shape : Shape ι)
    : prune grammar (.array items) shape
      = pruneItems grammar (items.map (prune grammar)) shape :=
  congrFun (Json.fold_array _ items) shape

theorem prune_object (members : List (String × Json)) (shape : Shape ι)
    : prune grammar (.object members) shape
      = pruneFields grammar (members.map (fun member => (member.1, prune grammar member.2)))
          shape :=
  congrFun (Json.fold_object _ members) shape

/-- Read as a string, a document stays as it is; by induction over it. -/
theorem prune_string (json : Json) : prune grammar json .string = json := by
  induction json using Json.induct with
  | null | bool | number | string => rfl
  | array items ih =>
      rw [prune_array, pruneItems, List.map_map]
      congr 1
      exact (List.map_congr_left ih).trans (List.map_id items)
  | object members ih =>
      rw [prune_object, pruneFields, List.map_map]
      congr 1
      refine (List.map_congr_left ?_).trans (List.map_id members)
      intro member inside
      exact Prod.ext rfl (ih member inside)

/-- The raw items and members behind the pruners. -/
theorem raw_items (items : List Json)
    : (items.map (prune grammar)).map (fun pruner => pruner .string) = items := by
  rw [List.map_map]
  exact (List.map_congr_left (fun item _ => prune_string grammar item)).trans (List.map_id items)

theorem raw_members (members : List (String × Json))
    : (members.map (fun member => (member.1, prune grammar member.2))).map
          (fun member => (member.1, member.2 .string))
        = members := by
  rw [List.map_map]
  refine (List.map_congr_left ?_).trans (List.map_id members)
  intro member _
  exact Prod.ext rfl (prune_string grammar member.2)

/-- Nothing that is there is pruned away whole. -/
theorem prune_present {json : Json} (present : json ≠ .null) (shape : Shape ι)
    : prune grammar json shape ≠ .null := by
  cases json with
  | null => exact absurd rfl present
  | bool | number | string => exact fun same => by cases same
  | array items =>
      rw [prune_array]
      induction shape with
      | option inner ih => exact ih
      | unit | string | bool | unsigned | signed | float | list | map | node =>
          exact fun same => by cases same
  | object members =>
      rw [prune_object]
      induction shape with
      | option inner ih => exact ih
      | unit | string | bool | unsigned | signed | float | list | map =>
          exact fun same => by cases same
      | node type =>
          show (grammar type).pruneObject _ ≠ .null
          unfold Layout.pruneObject
          dsimp only
          split
          · exact fun same => by cases same
          · exact fun same => by cases same

theorem prune_option (json : Json) (inner : Shape ι)
    : prune grammar json (.option inner) = prune grammar json inner := by
  cases json with
  | null | bool | number | string => rfl
  | array items =>
      rw [prune_array, prune_array]
      rfl
  | object members =>
      rw [prune_object, prune_object]
      rfl

theorem prune_array_list (items : List Json) (item : Shape ι)
    : prune grammar (.array items) (.list item)
      = .array (items.map (fun json => prune grammar json item)) := by
  rw [prune_array, pruneItems, List.map_map]
  rfl

theorem prune_object_map (members : List (String × Json)) (value : Shape ι)
    : prune grammar (.object members) (.map value)
      = .object (members.map (fun member => (member.1, prune grammar member.2 value))) := by
  rw [prune_object, pruneFields, List.map_map]
  rfl

/-- What is kept of a member: the tag as it is, and what a field takes without what the field's
shape does not declare.
-/
def keptMember (layout : Layout Node result) (fields : List (FieldDecl Node))
    (member : String × Json)
    : Option (String × Json) :=
  if layout.isTag member.1 then
    some member
  else
    (fieldNamed fields member.1).map (fun field =>
      (member.1, prune grammar member.2 field.shape))

def keptMembers (layout : Layout Node result) (fields : List (FieldDecl Node))
    (members : List (String × Json))
    : List (String × Json) :=
  members.filterMap (keptMember grammar layout fields)

/-- An object read as a declared type keeps its tag and what the fields take; one that cannot
be read stays as it is.
-/
theorem prune_object_node (members : List (String × Json)) (type : ι)
    : prune grammar (.object members) (.node type)
      = match (grammar type).chosen (Json.object members).tagged with
        | .ok variant => .object (keptMembers grammar (grammar type) variant.fields members)
        | .error _ => .object members := by
  have raw := raw_members grammar members
  rw [prune_object]
  show (grammar type).pruneObject _ = _
  unfold Layout.pruneObject
  rw [raw]
  dsimp only
  cases (grammar type).chosen (Json.object members).tagged with
  | error failure => rfl
  | ok variant =>
      dsimp only
      congr 1
      unfold Layout.pruneMembers keptMembers
      rw [List.filterMap_map]
      apply List.filterMap_congr
      intro member _
      simp only [Function.comp_apply, prune_string, keptMember]

/-- The items of an array read by some fields in order. -/
def keptInOrder (fields : List (FieldDecl Node)) (items : List Json) : List Json :=
  pruneInOrder fields (items.map (prune grammar))

theorem prune_array_node (items : List Json) (type : ι)
    : prune grammar (.array items) (.node type)
      = .array
          (match grammar type, items with
          | .tagged _ _ _, first :: rest =>
              first :: keptInOrder grammar ((grammar type).fieldsOf (.array items)) rest
          | _, _ => keptInOrder grammar ((grammar type).fieldsOf (.array items)) items) := by
  rw [prune_array]
  show (grammar type).pruneArray _ = _
  unfold Layout.pruneArray
  rw [raw_items]
  dsimp only
  congr 1
  cases grammar type with
  | struct | names => rfl
  | tagged tag mode variants =>
      cases items with
      | nil => rfl
      | cons first rest =>
          exact congrArg (fun tag => tag :: _) (prune_string grammar first)

/-- What the items that are kept choose, and their contents. -/
theorem prune_array_node_spec (items : List Json) (type : ι)
    : ∃ kept, prune grammar (.array items) (.node type) = .array kept
        ∧ (grammar type).chosen (Json.array kept).tagged
          = (grammar type).chosen (Json.array items).tagged
        ∧ (grammar type).contents kept
          = keptInOrder grammar ((grammar type).fieldsOf (.array items))
              ((grammar type).contents items) := by
  rw [prune_array_node]
  refine ⟨_, rfl, ?_, ?_⟩
  · cases grammar type with
    | struct | names => rfl
    | tagged name mode variants =>
        cases items with
        | nil => rfl
        | cons first rest => rfl
  · cases declared : grammar type with
    | struct | names => rfl
    | tagged name mode variants =>
        cases items with
        | nil => rfl
        | cons first rest => rfl

section Kept

variable {grammar} {layout : Layout Node result} {fields : List (FieldDecl Node)}

theorem keptMember_key {member kept : String × Json}
    (found : keptMember grammar layout fields member = some kept)
    : kept.1 = member.1 := by
  unfold keptMember at found
  split at found
  · cases found
    rfl
  · obtain ⟨field, _, rfl⟩ := Option.map_eq_some_iff.mp found
    rfl

theorem keptMember_tag {member : String × Json} (own : layout.isTag member.1 = true)
    : keptMember grammar layout fields member = some member :=
  if_pos own

/-- The tag is kept as it is, by induction over the members. -/
theorem keptMembers_tag {tag : String} (own : layout.isTag tag = true) (mode : ReadMode)
    (members : List (String × Json))
    : (Json.object (keptMembers grammar layout fields members)).tagged mode tag
      = (Json.object members).tagged mode tag := by
  simp only [Json.tagged, tagAmong]
  congr 1
  induction members with
  | nil => rfl
  | cons member rest ih =>
      unfold keptMembers at ih ⊢
      by_cases here : member.1 = tag
      · rw [List.filterMap_cons_some (keptMember_tag (here ▸ own))]
        simp [here]
      · cases found : keptMember grammar layout fields member with
        | none =>
            rw [List.filterMap_cons_none found, ih, List.find?_cons_of_neg (by simpa using here)]
        | some kept =>
            have apart : kept.1 ≠ tag := keptMember_key found ▸ here
            rw [List.filterMap_cons_some found, List.find?_cons_of_neg (by simpa using apart), ih,
              List.find?_cons_of_neg (by simpa using here)]

theorem keptMembers_count {tag : String} (own : layout.isTag tag = true)
    (members : List (String × Json))
    : ((keptMembers grammar layout fields members).map Prod.fst).count tag
      = (members.map Prod.fst).count tag := by
  induction members with
  | nil => rfl
  | cons member rest ih =>
      unfold keptMembers at ih ⊢
      by_cases here : member.1 = tag
      · rw [List.filterMap_cons_some (keptMember_tag (here ▸ own))]
        simp [here, ih]
      · cases found : keptMember grammar layout fields member with
        | none => simp [List.filterMap_cons_none found, ih, here]
        | some kept =>
            have apart : kept.1 ≠ tag := keptMember_key found ▸ here
            simp [List.filterMap_cons_some found, ih, here, apart]

/-- What chooses the fields of a layout is its tag. -/
theorem Layout.chosen_congr_own
    {tagged other : ReadMode → String → Except DecodeError TagValue}
    (same : ∀ tag, layout.isTag tag = true → ∀ mode, tagged mode tag = other mode tag)
    : layout.chosen tagged = layout.chosen other := by
  cases layout with
  | struct | names => rfl
  | tagged tag mode variants =>
      simp only [Layout.chosen]
      rw [same tag (by simp [Layout.isTag])]

theorem Layout.tagOnce_congr {keys others : List String}
    (same : ∀ tag, layout.isTag tag = true → keys.count tag = others.count tag)
    : layout.tagOnce keys = layout.tagOnce others := by
  cases layout with
  | struct | names => rfl
  | tagged tag mode variants =>
      simp only [Layout.tagOnce]
      rw [same tag (by simp [Layout.isTag])]

end Kept

end Prune

-----------------------------------------------------------------------------------------
-- Pruning keeps what is decoded
-----------------------------------------------------------------------------------------

namespace Slots

/-- A member that no field takes is skipped. -/
theorem fill_undeclared {key : String} {fields : List (FieldDecl Node)}
    (undeclared : fieldNamed fields key = none) (reader : Reader Node)
    (slots : Slots Node fields)
    : fill key reader fields slots = .ok slots := by
  induction fields with
  | nil => rfl
  | cons field rest ih =>
      obtain ⟨slot, others⟩ := slots
      have apart : field.name ≠ key := by
        intro here
        simp [fieldNamed, here] at undeclared
      have further : fieldNamed rest key = none := by simpa [fieldNamed, apart] using undeclared
      rw [fill_cons, if_neg apart, ih further]
      rfl

/-- What a member gives matters at the shape of the field that takes it. -/
theorem fill_congr {key : String} {fields : List (FieldDecl Node)} {reader other : Reader Node}
    (same : ∀ field, fieldNamed fields key = some field
      → reader field.shape = other field.shape)
    (slots : Slots Node fields)
    : fill key reader fields slots = fill key other fields slots := by
  induction fields with
  | nil => rfl
  | cons field rest ih =>
      obtain ⟨slot, others⟩ := slots
      rw [fill_cons, fill_cons]
      by_cases here : field.name = key
      · rw [if_pos here, if_pos here, same field (by simp [fieldNamed, here])]
      · rw [if_neg here, if_neg here, ih]
        intro field' found
        exact same field' (by simpa [fieldNamed, here] using found)

end Slots

section Keeps

variable {grammar : Grammar Node}

/-- The kept members fill the fields as all of them do, by induction over the members. -/
theorem fillAll_kept (layout : Layout Node result) (fields : List (FieldDecl Node))
    (members : List (String × Json))
    (same : ∀ member ∈ members, ∀ shape,
      decode grammar (prune grammar member.2 shape) shape = decode grammar member.2 shape)
    (slots : Slots Node fields)
    : Slots.fillAll fields
          (((keptMembers grammar layout fields members).map
              (fun member => (member.1, decode grammar member.2))).filter
            (fun member => !layout.isTag member.1))
          slots
        = Slots.fillAll fields
            ((members.map (fun member => (member.1, decode grammar member.2))).filter
              (fun member => !layout.isTag member.1))
            slots := by
  induction members generalizing slots with
  | nil => rfl
  | cons member rest ih =>
      have ih := ih (fun member inside => same member (List.mem_cons_of_mem _ inside))
      unfold keptMembers at ih ⊢
      by_cases own : layout.isTag member.1 = true
      · rw [List.filterMap_cons_some (keptMember_tag own)]
        simp only [List.map_cons, List.filter_cons, own, Bool.not_true, Bool.false_eq_true,
          if_false]
        exact ih slots
      · have own : layout.isTag member.1 = false := by simpa using own
        cases declared : fieldNamed fields member.1 with
        | none =>
            have dropped : keptMember grammar layout fields member = none := by
              simp [keptMember, own, declared]
            rw [List.filterMap_cons_none dropped]
            simp only [List.map_cons, List.filter_cons, own, Bool.not_false, if_true]
            rw [Slots.fillAll, Slots.fill_undeclared declared]
            exact ih slots
        | some field =>
            have kept
                : keptMember grammar layout fields member
                  = some (member.1, prune grammar member.2 field.shape) := by
              simp [keptMember, own, declared]
            rw [List.filterMap_cons_some kept]
            simp only [List.map_cons, List.filter_cons, own, Bool.not_false, if_true]
            have filled
                : Slots.fill member.1 (decode grammar (prune grammar member.2 field.shape)) fields
                    slots
                  = Slots.fill member.1 (decode grammar member.2) fields slots := by
              refine Slots.fill_congr ?_ slots
              intro other found
              rw [declared] at found
              cases found
              exact same member List.mem_cons_self field.shape
            rw [Slots.fillAll, Slots.fillAll, filled]
            cases Slots.fill member.1 (decode grammar member.2) fields slots with
            | error failure => rfl
            | ok filled => exact ih filled

/-- So do the kept items, by induction over the fields. -/
theorem fillInOrder_kept (fields : List (FieldDecl Node)) (items : List Json)
    (same : ∀ item ∈ items, ∀ shape,
      decode grammar (prune grammar item shape) shape = decode grammar item shape)
    : Slots.fillInOrder fields ((keptInOrder grammar fields items).map (decode grammar))
      = Slots.fillInOrder fields (items.map (decode grammar)) := by
  induction items generalizing fields with
  | nil => cases fields <;> rfl
  | cons item rest ih =>
      cases fields with
      | nil => rfl
      | cons field others =>
          have ih := ih others (fun item inside => same item (List.mem_cons_of_mem _ inside))
          show (decode grammar (prune grammar item field.shape) field.shape >>= _) = _
          rw [same item List.mem_cons_self field.shape]
          unfold keptInOrder at ih
          show (decode grammar item field.shape >>= fun value =>
            Slots.fillInOrder others (List.map (decode grammar) (pruneInOrder others
              (rest.map (prune grammar)))) >>= _) = _
          rw [ih]
          rfl

theorem mapM_congr_mem {A B : Type} {items : List A} {f g : A → Except DecodeError B}
    (same : ∀ item ∈ items, f item = g item)
    : items.mapM f = items.mapM g := by
  induction items with
  | nil => rfl
  | cons item rest ih =>
      rw [List.mapM_cons, List.mapM_cons, same item List.mem_cons_self,
        ih (fun item inside => same item (List.mem_cons_of_mem _ inside))]

theorem decode_prune_option {json : Json} {inner : Shape ι}
    (same : decode grammar (prune grammar json inner) inner = decode grammar json inner)
    : decode grammar (prune grammar json (.option inner)) (.option inner)
      = decode grammar json (.option inner) := by
  rw [prune_option]
  by_cases null : json = .null
  · subst null
    rfl
  · rw [decode_option grammar (prune_present grammar null inner), decode_option grammar null, same]

theorem readMembers_kept (layout : Layout Node result) {members : List (String × Json)}
    {variant : Variant Node result}
    (chosen : layout.chosen (Json.object members).tagged = .ok variant)
    (same : ∀ member ∈ members, ∀ shape,
      decode grammar (prune grammar member.2 shape) shape = decode grammar member.2 shape)
    : layout.readMembers
          ((keptMembers grammar layout variant.fields members).map
            (fun member => (member.1, decode grammar member.2)))
        = layout.readMembers
            (members.map (fun member => (member.1, decode grammar member.2))) := by
  have byFields (all : List (String × Reader Node))
      : layout.readMembers all = layout.readFields all := by
    cases layout with
    | struct | tagged => rfl
    | names => cases chosen
  rw [byFields, byFields]
  unfold Layout.readFields
  rw [Layout.chosen_congr (tagAmong_decode grammar members),
    Layout.chosen_congr (tagAmong_decode grammar _),
    Layout.chosen_congr_own (fun tag own mode => keptMembers_tag own mode members), chosen]
  show (layout.tagOnce _ >>= fun _ => _) = (layout.tagOnce _ >>= fun _ => _)
  rw [List.map_map, List.map_map]
  have once
      : layout.tagOnce ((keptMembers grammar layout variant.fields members).map Prod.fst)
        = layout.tagOnce (members.map Prod.fst) :=
    Layout.tagOnce_congr (fun tag own => keptMembers_count own members)
  show (layout.tagOnce ((keptMembers grammar layout variant.fields members).map Prod.fst) >>= _)
    = (layout.tagOnce (members.map Prod.fst) >>= _)
  rw [once]
  cases layout.tagOnce (members.map Prod.fst) with
  | error failure => rfl
  | ok _ =>
      show (Slots.fillAll _ _ _ >>= _) = (Slots.fillAll _ _ _ >>= _)
      rw [fillAll_kept layout variant.fields members same]

theorem readItems_kept (layout : Layout Node result) {items kept : List Json}
    (tag : layout.chosen (Json.array kept).tagged = layout.chosen (Json.array items).tagged)
    (contents : layout.contents kept
      = keptInOrder grammar (layout.fieldsOf (.array items)) (layout.contents items))
    (same : ∀ item ∈ items, ∀ shape,
      decode grammar (prune grammar item shape) shape = decode grammar item shape)
    : layout.readItems (kept.map (decode grammar))
      = layout.readItems (items.map (decode grammar)) := by
  unfold Layout.readItems
  rw [Layout.chosen_congr (tagBefore_decode grammar items),
    Layout.chosen_congr (tagBefore_decode grammar kept), tag, Layout.contents_map,
    Layout.contents_map, contents]
  unfold Layout.fieldsOf
  cases layout.chosen (Json.array items).tagged with
  | error failure => rfl
  | ok variant =>
      show (Slots.fillInOrder _ _ >>= _) = (Slots.fillInOrder _ _ >>= _)
      rw [fillInOrder_kept]
      intro item inside
      refine same item ?_
      cases layout with
      | struct | names => exact inside
      | tagged tag mode variants => exact List.mem_of_mem_tail inside

/-- Dropping the members that no type declares leaves what a document decodes to; by
induction over the document, and at each array or object over the shape.
-/
theorem decode_prune (json : Json) (shape : Shape ι)
    : decode grammar (prune grammar json shape) shape = decode grammar json shape := by
  induction json using Json.induct generalizing shape with
  | null | bool | number | string => rfl
  | array items ih =>
      induction shape with
      | option inner same => exact decode_prune_option same
      | list item =>
          rw [prune_array_list, decode_array_list, decode_array_list, List.mapM_map]
          exact mapM_congr_mem (fun json inside => ih json inside item)
      | node type =>
          obtain ⟨kept, pruned, tag, contents⟩ := prune_array_node_spec grammar items type
          rw [pruned, decode_array_node, decode_array_node]
          exact readItems_kept _ tag contents ih
      | unit | string | bool | unsigned | signed | float | map =>
          rw [decode_array, prune_array]
          show decode grammar (.array _) _ = _
          rw [decode_array]
          rfl
  | object members ih =>
      induction shape with
      | option inner same => exact decode_prune_option same
      | map value =>
          rw [prune_object_map, decode_object_map, decode_object_map, List.mapM_map]
          refine congrArg (fun entries => entries >>= _) (mapM_congr_mem ?_)
          intro member inside
          simp only [Function.comp_apply, ih member inside value]
      | node type =>
          rw [prune_object_node]
          cases chosen : (grammar type).chosen (Json.object members).tagged with
          | error failure => rfl
          | ok variant =>
              dsimp only
              rw [decode_object_node, decode_object_node]
              exact readMembers_kept _ chosen ih
      | unit =>
          rw [prune_object]
          show decode grammar (.object _) _ = _
          rw [raw_members]
      | string | bool | unsigned | signed | float | list =>
          rw [decode_object, prune_object]
          show decode grammar (.object _) _ = _
          rw [decode_object]
          rfl

-----------------------------------------------------------------------------------------
-- What is left is declared
-----------------------------------------------------------------------------------------

theorem fieldsOf_kept (layout : Layout Node result) {members : List (String × Json)}
    (fields : List (FieldDecl Node))
    : layout.fieldsOf (.object (keptMembers grammar layout fields members))
      = layout.fieldsOf (.object members) := by
  unfold Layout.fieldsOf
  rw [Layout.chosen_congr_own (fun tag own mode => keptMembers_tag own mode members)]

/-- The items kept in order are pruned by the shapes of their fields. -/
theorem mem_zip_keptInOrder {fields : List (FieldDecl Node)} {items : List Json}
    {field : FieldDecl Node} {part : Json}
    (inside : (field, part) ∈ fields.zip (keptInOrder grammar fields items))
    : ∃ whole, (field, whole) ∈ fields.zip items ∧ part = prune grammar whole field.shape := by
  induction items generalizing fields with
  | nil => cases fields <;> cases inside
  | cons item rest ih =>
      cases fields with
      | nil => cases inside
      | cons head others =>
          rcases List.mem_cons.mp inside with here | further
          · cases here
            exact ⟨item, List.mem_cons_self, rfl⟩
          · obtain ⟨whole, found, pruned⟩ := ih further
            exact ⟨whole, List.mem_cons_of_mem _ found, pruned⟩

/-- A part of a pruned document is a pruned part of the document. -/
theorem Child.of_prune {shape inner : Shape ι} {json part : Json}
    (child : Child grammar shape (prune grammar json shape) inner part)
    : ∃ whole, Child grammar shape json inner whole ∧ part = prune grammar whole inner := by
  generalize pruned : prune grammar json shape = document at child
  cases child with
  | present present =>
      have there : json ≠ .null := by
        intro null
        subst null
        exact present pruned.symm
      exact ⟨json, .present there, by rw [← pruned, prune_option]⟩
  | item inside =>
      cases json with
      | null | bool | number | string => cases pruned
      | object members =>
          rw [prune_object] at pruned
          cases pruned
      | array items =>
          rw [prune_array_list] at pruned
          cases pruned
          obtain ⟨whole, found, rfl⟩ := List.mem_map.mp inside
          exact ⟨whole, .item found, rfl⟩
  | value inside =>
      cases json with
      | null | bool | number | string => cases pruned
      | array items =>
          rw [prune_array] at pruned
          cases pruned
      | object members =>
          rw [prune_object_map] at pruned
          cases pruned
          obtain ⟨⟨key, whole⟩, found, same⟩ := List.mem_map.mp inside
          cases same
          exact ⟨whole, .value found, rfl⟩
  | @member type members key _ field inside untagged declared =>
      cases json with
      | null | bool | number | string => cases pruned
      | array items =>
          rw [prune_array_node] at pruned
          cases pruned
      | object all =>
          rw [prune_object_node] at pruned
          cases chosen : (grammar type).chosen (Json.object all).tagged with
          | error failure =>
              rw [chosen] at pruned
              cases pruned
              rw [Layout.fieldsOf, chosen] at declared
              cases declared
          | ok variant =>
              rw [chosen] at pruned
              cases pruned
              rw [fieldsOf_kept] at declared
              have fields : (grammar type).fieldsOf (.object all) = variant.fields := by
                rw [Layout.fieldsOf, chosen]
              obtain ⟨⟨name, whole⟩, found, kept⟩ := List.mem_filterMap.mp inside
              have same : key = name := keptMember_key kept
              subst same
              rw [keptMember, if_neg (by simp [untagged]), ← fields, declared] at kept
              cases kept
              exact ⟨whole, .member found untagged declared, rfl⟩
  | @positional type items _ field inside =>
      cases json with
      | null | bool | number | string => cases pruned
      | object members =>
          rw [prune_object_node] at pruned
          split at pruned <;> cases pruned
      | array all =>
          obtain ⟨kept, same, tag, contents⟩ := prune_array_node_spec grammar all type
          rw [same] at pruned
          cases pruned
          have fields
              : (grammar type).fieldsOf (.array items) = (grammar type).fieldsOf (.array all) := by
            unfold Layout.fieldsOf
            rw [tag]
          rw [fields, contents] at inside
          obtain ⟨whole, found, pruned⟩ := mem_zip_keptInOrder inside
          exact ⟨whole, .positional found, pruned⟩

/-- So is one at any depth, by induction on where it is. -/
theorem Position.of_prune {shape inner : Shape ι} {json part : Json}
    (position : Position grammar shape (prune grammar json shape) inner part)
    : ∃ whole, Position grammar shape json inner whole ∧ part = prune grammar whole inner := by
  generalize pruned : prune grammar json shape = document at position
  induction position generalizing json with
  | whole => exact ⟨json, .whole, pruned.symm⟩
  | inside child _ ih =>
      subst pruned
      obtain ⟨whole, above, rfl⟩ := child.of_prune
      obtain ⟨inner, below, same⟩ := ih rfl
      exact ⟨inner, .inside above below, same⟩

/-- What decodes as a declared type has no undeclared keys once it is pruned. -/
theorem keysDeclared_prune {type : ι} {json : Json} {value : Node type}
    (decoded : decode grammar json (.node type) = .ok value)
    : (grammar type).KeysDeclared (prune grammar json (.node type)) := by
  intro members same member inside
  cases json with
  | null | bool | number => cases decoded
  | string name => cases same
  | array items =>
      rw [prune_array_node] at same
      cases same
  | object all =>
      rw [decode_object_node] at decoded
      rcases readMembers_cases decoded
        with ⟨mode, values, name, unit, names, only, named, _⟩ | decoded
      · -- the one key of an object that is a name is the name
        rw [prune_object_node, names] at same
        cases same
        rw [only, List.mem_singleton] at inside
        subst inside
        refine Or.inl ?_
        rw [names]
        exact List.any_eq_true.mpr ⟨_, named, by simp⟩
      obtain ⟨variant, chosen, _⟩ := Except.bind_eq_ok.mp decoded
      rw [Layout.chosen_congr (tagAmong_decode grammar all)] at chosen
      rw [prune_object_node, chosen] at same ⊢
      dsimp only at same ⊢
      cases same
      rw [fieldsOf_kept, Layout.fieldsOf, chosen]
      obtain ⟨original, _, kept⟩ := List.mem_filterMap.mp inside
      rw [keptMember_key kept]
      unfold keptMember at kept
      by_cases own : (grammar type).isTag original.1 = true
      · exact Or.inl own
      · rw [if_neg own] at kept
        obtain ⟨field, declared, _⟩ := Option.map_eq_some_iff.mp kept
        exact Or.inr (by rw [declared]; rfl)

theorem keptInOrder_eq_self {fields : List (FieldDecl Node)} {items : List Json}
    (same : ∀ pair ∈ fields.zip items, prune grammar pair.2 pair.1.shape = pair.2)
    : keptInOrder grammar fields items = items := by
  induction items generalizing fields with
  | nil => cases fields <;> rfl
  | cons item rest ih =>
      cases fields with
      | nil =>
          have later : keptInOrder grammar ([] : List (FieldDecl Node)) rest = rest :=
            ih (fun pair inside => by cases inside)
          unfold keptInOrder at later ⊢
          simp only [List.map_cons, pruneInOrder, prune_string, later]
      | cons field others =>
          have here := same (field, item) List.mem_cons_self
          have later := ih (fun pair inside => same pair (List.mem_cons_of_mem _ inside))
          unfold keptInOrder at later ⊢
          simp only [List.map_cons, pruneInOrder, later]
          rw [here]

/-- A document without undeclared keys is left as it is; by induction over it, and at each
array or object over the shape.
-/
theorem prune_eq_self (json : Json) (shape : Shape ι)
    (declared : ∀ type part, Position grammar shape json (.node type) part
      → (grammar type).KeysDeclared part)
    : prune grammar json shape = json := by
  induction json using Json.induct generalizing shape with
  | null | bool | number | string => rfl
  | array items ih =>
      induction shape with
      | option inner same =>
          rw [prune_option]
          exact same (fun type part position =>
            declared type part (.inside (.present (fun null => by cases null)) position))
      | list item =>
          rw [prune_array_list]
          congr 1
          refine (List.map_congr_left ?_).trans (List.map_id items)
          intro json inside
          exact ih json inside item (fun type part position =>
            declared type part (.inside (.item inside) position))
      | node type =>
          have kept
              : keptInOrder grammar ((grammar type).fieldsOf (.array items))
                  ((grammar type).contents items)
                = (grammar type).contents items := by
            apply keptInOrder_eq_self
            intro pair inside
            have member : pair.2 ∈ items := by
              have content := (List.of_mem_zip inside).2
              cases found : grammar type with
              | struct | names =>
                  rw [found] at content
                  exact content
              | tagged =>
                  rw [found] at content
                  exact List.mem_of_mem_tail content
            exact ih pair.2 member pair.1.shape (fun inner part position =>
              declared inner part (.inside (.positional inside) position))
          rw [prune_array_node]
          congr 1
          cases found : grammar type with
          | struct | names =>
              rw [found] at kept
              exact kept
          | tagged tag mode variants =>
              rw [found] at kept
              cases items with
              | nil => rfl
              | cons first rest => exact congrArg (fun others => first :: others) kept
      | unit | string | bool | unsigned | signed | float | map =>
          rw [prune_array]
          exact congrArg Json.array (raw_items grammar items)
  | object members ih =>
      induction shape with
      | option inner same =>
          rw [prune_option]
          exact same (fun type part position =>
            declared type part (.inside (.present (fun null => by cases null)) position))
      | map value =>
          rw [prune_object_map]
          congr 1
          refine (List.map_congr_left ?_).trans (List.map_id members)
          intro member inside
          refine Prod.ext rfl (ih member inside value ?_)
          intro type part position
          exact declared type part (.inside (.value inside) position)
      | node type =>
          rw [prune_object_node]
          cases chosen : (grammar type).chosen (Json.object members).tagged with
          | error failure => rfl
          | ok variant =>
              dsimp only
              congr 1
              have fields : (grammar type).fieldsOf (.object members) = variant.fields := by
                rw [Layout.fieldsOf, chosen]
              have all (member : String × Json) (inside : member ∈ members)
                  : keptMember grammar (grammar type) variant.fields member = some member := by
                rcases declared type _ .whole members rfl member inside with own | named
                · exact keptMember_tag own
                cases own : (grammar type).isTag member.1 with
                | true => exact keptMember_tag own
                | false =>
                    obtain ⟨field, found⟩ := Option.isSome_iff_exists.mp named
                    have same := ih member inside field.shape (fun inner part position =>
                      declared inner part (.inside (.member inside own found) position))
                    rw [keptMember, if_neg (by simp [own]), ← fields, found, Option.map_some, same]
              unfold keptMembers
              rw [List.filterMap_congr all, List.filterMap_some]
      | unit | string | bool | unsigned | signed | float | list =>
          rw [prune_object]
          exact congrArg Json.object (raw_members grammar members)

end Keeps

end Fedqrs
