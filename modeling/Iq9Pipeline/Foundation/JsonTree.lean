import Iq9Pipeline.Foundation.JsonText

/-!
Predicates on trees: what holds of all words and texts, and objects without repeated
names. Whether a tree that is written piece by piece is valid is a matter of its words
and texts alone.
-/

namespace Foundation.JsonText

namespace Tree

variable {Word Text Word' Text' : Type}

theorem mapElements_eq_map (onWord : Word → Word') (onText : Text → Text')
    (elements : List (Tree Word Text)) :
    mapElements onWord onText elements = elements.map fun next => next.map onWord onText := by
  induction elements with
  | nil => rfl
  | cons next rest ih => rw [mapElements, ih, List.map_cons]

theorem mapMembers_eq_map (onWord : Word → Word') (onText : Text → Text')
    (members : List (Text × Tree Word Text)) :
    mapMembers onWord onText members =
      members.map fun member => (onText member.1, member.2.map onWord onText) := by
  induction members with
  | nil => rfl
  | cons member rest ih => rw [mapMembers, ih, List.map_cons]

@[simp] theorem map_number (onWord : Word → Word') (onText : Text → Text') (word : Word) :
    map onWord onText (.number word) = .number (onWord word) :=
  rfl

@[simp] theorem map_string (onWord : Word → Word') (onText : Text → Text') (text : Text) :
    map onWord onText (.string text) = .string (onText text) :=
  rfl

@[simp] theorem map_array (onWord : Word → Word') (onText : Text → Text')
    (elements : List (Tree Word Text)) :
    map onWord onText (.array elements) =
      .array (elements.map fun next => next.map onWord onText) := by
  rw [map, mapElements_eq_map]

@[simp] theorem map_object (onWord : Word → Word') (onText : Text → Text')
    (members : List (Text × Tree Word Text)) :
    map onWord onText (.object members) =
      .object (members.map fun member => (onText member.1, member.2.map onWord onText)) := by
  rw [map, mapMembers_eq_map]

mutual

theorem map_map {Word'' Text'' : Type} (onWord : Word → Word') (onText : Text → Text')
    (onWord' : Word' → Word'') (onText' : Text' → Text'') : ∀ tree : Tree Word Text,
    (tree.map onWord onText).map onWord' onText' = tree.map (onWord' ∘ onWord) (onText' ∘ onText)
  | .null => rfl
  | .boolean _ => rfl
  | .number _ => rfl
  | .string _ => rfl
  | .array elements => by
      rw [map, map, map, mapElements_mapElements onWord onText onWord' onText' elements]
  | .object members => by
      rw [map, map, map, mapMembers_mapMembers onWord onText onWord' onText' members]

theorem mapElements_mapElements {Word'' Text'' : Type} (onWord : Word → Word')
    (onText : Text → Text') (onWord' : Word' → Word'') (onText' : Text' → Text'') :
    ∀ elements : List (Tree Word Text),
      mapElements onWord' onText' (mapElements onWord onText elements) =
        mapElements (onWord' ∘ onWord) (onText' ∘ onText) elements
  | [] => rfl
  | next :: rest => by
      rw [mapElements, mapElements, mapElements, map_map onWord onText onWord' onText' next,
        mapElements_mapElements onWord onText onWord' onText' rest]

theorem mapMembers_mapMembers {Word'' Text'' : Type} (onWord : Word → Word')
    (onText : Text → Text') (onWord' : Word' → Word'') (onText' : Text' → Text'') :
    ∀ members : List (Text × Tree Word Text),
      mapMembers onWord' onText' (mapMembers onWord onText members) =
        mapMembers (onWord' ∘ onWord) (onText' ∘ onText) members
  | [] => rfl
  | (name, value) :: rest => by
      rw [mapMembers, mapMembers, mapMembers, map_map onWord onText onWord' onText' value,
        mapMembers_mapMembers onWord onText onWord' onText' rest]
      rfl

end

mutual

def All (onWord : Word → Prop) (onText : Text → Prop) : Tree Word Text → Prop
  | .null => True
  | .boolean _ => True
  | .number word => onWord word
  | .string text => onText text
  | .array elements => AllElements onWord onText elements
  | .object members => AllMembers onWord onText members

def AllElements (onWord : Word → Prop) (onText : Text → Prop) : List (Tree Word Text) → Prop
  | [] => True
  | next :: rest => All onWord onText next ∧ AllElements onWord onText rest

def AllMembers (onWord : Word → Prop) (onText : Text → Prop) :
    List (Text × Tree Word Text) → Prop
  | [] => True
  | (name, value) :: rest => onText name ∧ All onWord onText value ∧ AllMembers onWord onText rest

end

mutual

def Distinct : Tree Word Text → Prop
  | .null => True
  | .boolean _ => True
  | .number _ => True
  | .string _ => True
  | .array elements => DistinctElements elements
  | .object members => (members.map Prod.fst).Nodup ∧ DistinctMembers members

def DistinctElements : List (Tree Word Text) → Prop
  | [] => True
  | next :: rest => Distinct next ∧ DistinctElements rest

def DistinctMembers : List (Text × Tree Word Text) → Prop
  | [] => True
  | (_, value) :: rest => Distinct value ∧ DistinctMembers rest

end

theorem allElements_iff {onWord : Word → Prop} {onText : Text → Prop}
    {elements : List (Tree Word Text)} :
    AllElements onWord onText elements ↔ ∀ next ∈ elements, All onWord onText next := by
  induction elements with
  | nil => simp [AllElements]
  | cons next rest ih => rw [AllElements, ih, List.forall_mem_cons]

theorem distinctElements_iff {elements : List (Tree Word Text)} :
    DistinctElements elements ↔ ∀ next ∈ elements, Distinct next := by
  induction elements with
  | nil => simp [DistinctElements]
  | cons next rest ih => rw [DistinctElements, ih, List.forall_mem_cons]

mutual

theorem all_of_forall {onWord : Word → Prop} {onText : Text → Prop}
    (words : ∀ word, onWord word) (texts : ∀ text, onText text) :
    ∀ tree : Tree Word Text, All onWord onText tree
  | .null => trivial
  | .boolean _ => trivial
  | .number word => words word
  | .string text => texts text
  | .array elements => allElements_of_forall words texts elements
  | .object members => allMembers_of_forall words texts members

theorem allElements_of_forall {onWord : Word → Prop} {onText : Text → Prop}
    (words : ∀ word, onWord word) (texts : ∀ text, onText text) :
    ∀ elements : List (Tree Word Text), AllElements onWord onText elements
  | [] => trivial
  | next :: rest =>
      ⟨all_of_forall words texts next, allElements_of_forall words texts rest⟩

theorem allMembers_of_forall {onWord : Word → Prop} {onText : Text → Prop}
    (words : ∀ word, onWord word) (texts : ∀ text, onText text) :
    ∀ members : List (Text × Tree Word Text), AllMembers onWord onText members
  | [] => trivial
  | (name, value) :: rest =>
      ⟨texts name, all_of_forall words texts value, allMembers_of_forall words texts rest⟩

end

mutual

theorem distinct_mapWords (onWord : Word → Word') : ∀ tree : Tree Word Text,
    Distinct (tree.map onWord id) ↔ Distinct tree
  | .null => Iff.rfl
  | .boolean _ => Iff.rfl
  | .number _ => Iff.rfl
  | .string _ => Iff.rfl
  | .array elements => distinctElements_mapWords onWord elements
  | .object members => by
      have names : (mapMembers onWord id members).map Prod.fst = members.map Prod.fst := by
        simp [mapMembers_eq_map, Function.comp_def]
      rw [map, Distinct, Distinct, names, distinctMembers_mapWords onWord members]

theorem distinctElements_mapWords (onWord : Word → Word') : ∀ elements : List (Tree Word Text),
    DistinctElements (mapElements onWord id elements) ↔ DistinctElements elements
  | [] => Iff.rfl
  | next :: rest => by
      rw [mapElements, DistinctElements, DistinctElements, distinct_mapWords onWord next,
        distinctElements_mapWords onWord rest]

theorem distinctMembers_mapWords (onWord : Word → Word') :
    ∀ members : List (Text × Tree Word Text),
      DistinctMembers (mapMembers onWord id members) ↔ DistinctMembers members
  | [] => Iff.rfl
  | (name, value) :: rest => by
      rw [mapMembers, DistinctMembers, DistinctMembers, distinct_mapWords onWord value,
        distinctMembers_mapWords onWord rest]

end

section Check

variable {onWord : Word → List UInt8} {onText : Text → List UInt8}

def Sound (onWord : Word → List UInt8) (onText : Text → List UInt8) (tree : Tree Word Text) :
    Prop :=
  tree.All (fun word => isNumber (onWord word) = true)
    fun text => (decodeText (onText text)).isSome = true

def readBack (onText : Text → List UInt8) (text : Text) : String :=
  (decodeText (onText text)).getD ""

theorem decodeText_of_isSome {text : Text} (valid : (decodeText (onText text)).isSome = true) :
    decodeText (onText text) = some (readBack onText text) := by
  obtain ⟨decoded, found⟩ := Option.isSome_iff_exists.mp valid
  rw [readBack, found, Option.getD_some]

mutual

theorem check_map : ∀ tree : Tree Word Text, tree.Sound onWord onText →
    check (tree.map onWord onText) = some (tree.map onWord (readBack onText))
  | .null, _ => rfl
  | .boolean _, _ => rfl
  | .number _, sound => if_pos sound
  | .string _, sound => by
      rw [map, check, decodeText_of_isSome sound]
      rfl
  | .array elements, sound => by
      rw [map, check, checkElements_map elements sound]
      rfl
  | .object members, sound => by
      rw [map, check, checkMembers_map members sound]
      rfl

theorem checkElements_map : ∀ elements : List (Tree Word Text),
    AllElements (fun word => isNumber (onWord word) = true)
        (fun text => (decodeText (onText text)).isSome = true) elements →
      checkElements (mapElements onWord onText elements) =
        some (mapElements onWord (readBack onText) elements)
  | [], _ => rfl
  | next :: rest, sound => by
      rw [mapElements, checkElements, check_map next sound.1, checkElements_map rest sound.2]
      rfl

theorem checkMembers_map : ∀ members : List (Text × Tree Word Text),
    AllMembers (fun word => isNumber (onWord word) = true)
        (fun text => (decodeText (onText text)).isSome = true) members →
      checkMembers (mapMembers onWord onText members) =
        some (mapMembers onWord (readBack onText) members)
  | [], _ => rfl
  | (name, value) :: rest, sound => by
      rw [mapMembers, checkMembers, decodeText_of_isSome sound.1, check_map value sound.2.1,
        checkMembers_map rest sound.2.2]
      rfl

end

mutual

theorem sound_of_check : ∀ tree : Tree Word Text,
    (check (tree.map onWord onText)).isSome = true → tree.Sound onWord onText
  | .null, _ => trivial
  | .boolean _, _ => trivial
  | .number word, checked => by
      simpa [map, check, Sound, All] using checked
  | .string text, checked => by
      simpa [map, check, Sound, All] using checked
  | .array elements, checked => by
      rw [map, check, Option.isSome_map] at checked
      exact soundElements_of_check elements checked
  | .object members, checked => by
      rw [map, check, Option.isSome_map] at checked
      exact soundMembers_of_check members checked

theorem soundElements_of_check : ∀ elements : List (Tree Word Text),
    (checkElements (mapElements onWord onText elements)).isSome = true →
      AllElements (fun word => isNumber (onWord word) = true)
        (fun text => (decodeText (onText text)).isSome = true) elements
  | [], _ => trivial
  | next :: rest, checked => by
      obtain ⟨_, found⟩ := Option.isSome_iff_exists.mp checked
      simp only [mapElements, checkElements, Option.bind_eq_some_iff, Option.map_eq_some_iff]
        at found
      obtain ⟨first, one, others, more, _⟩ := found
      exact ⟨sound_of_check next (Option.isSome_iff_exists.mpr ⟨first, one⟩),
        soundElements_of_check rest (Option.isSome_iff_exists.mpr ⟨others, more⟩)⟩

theorem soundMembers_of_check : ∀ members : List (Text × Tree Word Text),
    (checkMembers (mapMembers onWord onText members)).isSome = true →
      AllMembers (fun word => isNumber (onWord word) = true)
        (fun text => (decodeText (onText text)).isSome = true) members
  | [], _ => trivial
  | (name, value) :: rest, checked => by
      obtain ⟨_, found⟩ := Option.isSome_iff_exists.mp checked
      simp only [mapMembers, checkMembers, Option.bind_eq_some_iff, Option.map_eq_some_iff]
        at found
      obtain ⟨text, named, first, one, others, more, _⟩ := found
      exact ⟨Option.isSome_iff_exists.mpr ⟨text, named⟩,
        sound_of_check value (Option.isSome_iff_exists.mpr ⟨first, one⟩),
        soundMembers_of_check rest (Option.isSome_iff_exists.mpr ⟨others, more⟩)⟩

end

end Check

end Tree

end Foundation.JsonText
