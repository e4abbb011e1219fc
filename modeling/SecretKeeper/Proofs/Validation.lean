import Mathlib.Data.List.Nodup
import SecretKeeper.Proofs.Text.Digits
import SecretKeeper.Validation

/-!
Reports of failures. A report tells one failure for each leaf of the tree that it is made of: the
dotted path of the leaf, with indices in brackets, and its messages. The failures are in the order
of paths and messages, in whatever order the fields and items of the tree are enumerated. Paths
tell leaves apart if the names of the fields have no marks of a path in them.
-/
namespace SecretKeeper

open Text

namespace Failure

theorem before_iff {a b : Failure} :
    a.before b = true ↔ a.path < b.path ∨ a.path = b.path ∧ a.message ≤ b.message := by
  simp [before]

theorem before_trans (a b c : Failure) (first : a.before b = true) (second : b.before c = true) :
    a.before c = true := by
  rw [before_iff] at *
  rcases first with less | ⟨same, message⟩
  · rcases second with less' | ⟨same', _⟩
    · exact Or.inl (String.lt_trans less less')
    · exact Or.inl (same' ▸ less)
  · rcases second with less' | ⟨same', message'⟩
    · exact Or.inl (same ▸ less')
    · exact Or.inr ⟨same.trans same', String.le_trans message message'⟩

theorem before_total (a b : Failure) : (a.before b || b.before a) = true := by
  rw [Bool.or_eq_true, before_iff, before_iff]
  by_cases less : a.path < b.path
  · exact Or.inl (Or.inl less)
  · by_cases more : b.path < a.path
    · exact Or.inr (Or.inl more)
    · have same := String.le_antisymm (String.not_lt.mp more) (String.not_lt.mp less)
      exact (String.le_total a.message b.message).imp (fun message => Or.inr ⟨same, message⟩)
        fun message => Or.inr ⟨same.symm, message⟩

theorem before_antisymm {a b : Failure} (first : a.before b = true) (second : b.before a = true) :
    a = b := by
  rw [before_iff] at first second
  rcases first with less | ⟨same, message⟩
  · rcases second with less' | ⟨same', _⟩
    · exact absurd less' (String.lt_asymm less)
    · exact absurd (same' ▸ less) (String.lt_irrefl _)
  · rcases second with less' | ⟨_, message'⟩
    · exact absurd (same ▸ less') (String.lt_irrefl _)
    · cases a
      cases b
      cases same
      cases String.le_antisymm message message'
      rfl

def soleField : List Failure → Option String
  | [f] => some f.path
  | _ => none

theorem soleField_eq_some_iff (failures : List Failure) (path : String) :
    soleField failures = some path ↔ failures.map Failure.path = [path] := by
  rcases failures with _ | ⟨f, _ | ⟨g, rest⟩⟩ <;> simp [soleField]

end Failure

theorem Problem.ofFailures_of_perm {found ordered : List Failure} (perm : found.Perm ordered)
    (sorted : ordered.Pairwise fun a b => a.before b = true) :
    Problem.ofFailures found = .validation
      ("Validation failed: " ++ "; ".intercalate (ordered.map Failure.describe))
      (Failure.soleField ordered) := by
  have same : found.mergeSort Failure.before = ordered :=
    ((List.mergeSort_perm found _).trans perm).eq_of_pairwise
      (fun _ _ _ _ => Failure.before_antisymm)
      (List.pairwise_mergeSort Failure.before_trans Failure.before_total found) sorted
  rw [ofFailures, same]
  rfl

namespace Violation

inductive Turn where
  | field (name : String)
  | item (index : Nat)
  deriving DecidableEq, Repr

def Turn.text : Turn → String
  | field name => "." ++ name
  | item index => "[" ++ toString index ++ "]"

def further : List Turn → String
  | [] => ""
  | turn :: rest => turn.text ++ further rest

def dotted : List Turn → String
  | .field name :: rest => name ++ further rest
  | route => further route

/-- The path of a route. Fields without a name leave no trace in front of a path. -/
def pathOf (route : List Turn) : String := dotted (route.dropWhile fun turn => turn = .field "")

theorem pathOf_named {route : List Turn} (named : route.head? ≠ some (.field "")) :
    pathOf route = dotted route := by
  cases route with
  | nil => rfl
  | cons turn rest =>
    have other : turn ≠ .field "" := fun same => named (congrArg some same)
    rw [pathOf, List.dropWhile_cons_of_neg (by simpa using other)]

/-- The messages at the end of a route. -/
structure Leaf where
  route : List Turn
  texts : List (Option String)
  deriving DecidableEq, Repr

namespace Leaf

def under (turn : Turn) (l : Leaf) : Leaf := ⟨turn :: l.route, l.texts⟩

def path (l : Leaf) : String := pathOf l.route

def message (l : Leaf) : String :=
  ", ".intercalate (l.texts.map fun text => text.getD "Invalid value")

def failure (l : Leaf) : Failure := ⟨l.path, l.message⟩

end Leaf

mutual

def leaves : Violation → List Leaf
  | messages texts => [⟨[], texts⟩]
  | record fields => fieldsLeaves fields
  | list items => itemsLeaves items

def fieldsLeaves : List (String × Violation) → List Leaf
  | [] => []
  | (name, v) :: rest => (leaves v).map (Leaf.under (.field name)) ++ fieldsLeaves rest

def itemsLeaves : List (Nat × List (String × Violation)) → List Leaf
  | [] => []
  | (index, fields) :: rest =>
    (fieldsLeaves fields).map (Leaf.under (.item index)) ++ itemsLeaves rest

end

/-! Paths are written from the outside in. -/

def onward (path : String) : Turn → String
  | .field name => fieldPath path name
  | .item index => itemPath path index

theorem itemPath_eq (path : String) (index : Nat) :
    itemPath path index = path ++ (Turn.item index).text := by
  have text : itemPath path index = path ++ "[" ++ toString index ++ "]" := rfl
  simp only [text, Turn.text, String.append_assoc]

theorem onward_of_ne_empty {path : String} (begun : path ≠ "") (turn : Turn) :
    onward path turn = path ++ turn.text := by
  cases turn with
  | field name =>
    rw [onward, fieldPath, if_neg begun, String.append_assoc]
    rfl
  | item index => exact itemPath_eq path index

theorem text_ne_empty (turn : Turn) : turn.text ≠ "" := by
  cases turn <;> simp [Turn.text, String.append_eq_empty_iff]

theorem foldl_onward {path : String} (begun : path ≠ "") (route : List Turn) :
    route.foldl onward path = path ++ further route := by
  induction route generalizing path with
  | nil => exact (String.append_empty).symm
  | cons turn rest ih =>
    have further' : path ++ turn.text ≠ "" := by
      rw [Ne, String.append_eq_empty_iff]
      exact fun both => begun both.1
    rw [List.foldl_cons, onward_of_ne_empty begun, ih further', String.append_assoc]
    rfl

theorem foldl_onward_start (route : List Turn) : route.foldl onward "" = pathOf route := by
  induction route with
  | nil => rfl
  | cons turn rest ih =>
    cases turn with
    | field name =>
      by_cases unnamed : name = ""
      · subst unnamed
        exact ih
      · have first : onward "" (.field name) = name := rfl
        rw [List.foldl_cons, first, foldl_onward unnamed, pathOf,
          List.dropWhile_cons_of_neg (by simpa using unnamed)]
        rfl
    | item index =>
      have first : onward "" (.item index) = (Turn.item index).text :=
        (itemPath_eq "" index).trans String.empty_append
      rw [List.foldl_cons, first, foldl_onward (text_ne_empty _), pathOf,
        List.dropWhile_cons_of_neg (by simp)]
      rfl

def Leaf.failureFrom (path : String) (l : Leaf) : Failure := ⟨l.route.foldl onward path, l.message⟩

theorem failureFrom_under (path : String) (turn : Turn) (ls : List Leaf) :
    (ls.map (Leaf.under turn)).map (Leaf.failureFrom path) =
      ls.map (Leaf.failureFrom (onward path turn)) := List.map_map

mutual

theorem failures_eq (path : String) :
    ∀ v : Violation, failures path v = (leaves v).map (Leaf.failureFrom path)
  | messages _ => rfl
  | record fields => fieldsFailures_eq path fields
  | list items => itemsFailures_eq path items

theorem fieldsFailures_eq (path : String) : ∀ fields : List (String × Violation),
    fieldsFailures path fields = (fieldsLeaves fields).map (Leaf.failureFrom path)
  | [] => rfl
  | (name, v) :: rest => by
    rw [fieldsFailures, fieldsLeaves, List.map_append, failureFrom_under,
      ← fieldsFailures_eq path rest]
    exact congrArg (· ++ _) (failures_eq (fieldPath path name) v)

theorem itemsFailures_eq (path : String) : ∀ items : List (Nat × List (String × Violation)),
    itemsFailures path items = (itemsLeaves items).map (Leaf.failureFrom path)
  | [] => rfl
  | (index, fields) :: rest => by
    rw [itemsFailures, itemsLeaves, List.map_append, failureFrom_under,
      ← itemsFailures_eq path rest]
    exact congrArg (· ++ _) (fieldsFailures_eq (itemPath path index) fields)

end

theorem failures_of_leaves (fields : List (String × Violation)) :
    fieldsFailures "" fields = (fieldsLeaves fields).map Leaf.failure := by
  rw [fieldsFailures_eq]
  apply List.map_congr_left
  intro l _
  rw [Leaf.failureFrom, foldl_onward_start]
  rfl

/-! Maps are enumerated in any order. -/

mutual

/-- The same tree, with the entries of its maps in another order. -/
inductive Reordered : Violation → Violation → Prop where
  | messages (texts : List (Option String)) : Reordered (.messages texts) (.messages texts)
  | record {fields fields' : List (String × Violation)} (inside : FieldsReordered fields fields') :
      Reordered (.record fields) (.record fields')
  | list {items items' : List (Nat × List (String × Violation))}
      (inside : ItemsReordered items items') : Reordered (.list items) (.list items')

inductive FieldsReordered : List (String × Violation) → List (String × Violation) → Prop where
  | nil : FieldsReordered [] []
  | cons (name : String) {v v' : Violation} {rest rest' : List (String × Violation)}
      (value : Reordered v v') (others : FieldsReordered rest rest') :
      FieldsReordered ((name, v) :: rest) ((name, v') :: rest')
  | perm {fields middle fields' : List (String × Violation)} (order : fields.Perm middle)
      (others : FieldsReordered middle fields') : FieldsReordered fields fields'

inductive ItemsReordered : List (Nat × List (String × Violation)) →
    List (Nat × List (String × Violation)) → Prop where
  | nil : ItemsReordered [] []
  | cons (index : Nat) {fields fields' : List (String × Violation)}
      {rest rest' : List (Nat × List (String × Violation))}
      (value : FieldsReordered fields fields') (others : ItemsReordered rest rest') :
      ItemsReordered ((index, fields) :: rest) ((index, fields') :: rest')
  | perm {items middle items' : List (Nat × List (String × Violation))}
      (order : items.Perm middle) (others : ItemsReordered middle items') :
      ItemsReordered items items'

end

theorem fieldsLeaves_eq (fields : List (String × Violation)) :
    fieldsLeaves fields = fields.flatMap fun f => (leaves f.2).map (Leaf.under (.field f.1)) := by
  induction fields with
  | nil => rfl
  | cons first rest ih => rw [fieldsLeaves, List.flatMap_cons, ih]

theorem itemsLeaves_eq (items : List (Nat × List (String × Violation))) :
    itemsLeaves items = items.flatMap fun i => (fieldsLeaves i.2).map (Leaf.under (.item i.1)) := by
  induction items with
  | nil => rfl
  | cons first rest ih => rw [itemsLeaves, List.flatMap_cons, ih]

mutual

theorem leaves_reordered {v v' : Violation} : Reordered v v' → (leaves v).Perm (leaves v')
  | .messages _ => .refl _
  | .record inside => fieldsLeaves_reordered inside
  | .list inside => itemsLeaves_reordered inside

theorem fieldsLeaves_reordered {fields fields' : List (String × Violation)} :
    FieldsReordered fields fields' → (fieldsLeaves fields).Perm (fieldsLeaves fields')
  | .nil => .refl _
  | .cons _ value others =>
    ((leaves_reordered value).map _).append (fieldsLeaves_reordered others)
  | .perm order others => by
    refine List.Perm.trans ?_ (fieldsLeaves_reordered others)
    rw [fieldsLeaves_eq, fieldsLeaves_eq]
    exact order.flatMap_right _

theorem itemsLeaves_reordered {items items' : List (Nat × List (String × Violation))} :
    ItemsReordered items items' → (itemsLeaves items).Perm (itemsLeaves items')
  | .nil => .refl _
  | .cons _ value others =>
    ((fieldsLeaves_reordered value).map _).append (itemsLeaves_reordered others)
  | .perm order others => by
    refine List.Perm.trans ?_ (itemsLeaves_reordered others)
    rw [itemsLeaves_eq, itemsLeaves_eq]
    exact order.flatMap_right _

end

/-! Routes are told by their paths. -/

/-- A name without the marks of a path. -/
def Turn.Plain : Turn → Prop
  | field name => name ≠ "" ∧ ∀ c ∈ name.toList, c ≠ '.' ∧ c ≠ '[' ∧ c ≠ ']'
  | item _ => True

mutual

def Keyed : Violation → Prop
  | messages _ => True
  | record fields => FieldsKeyed fields
  | list items => ItemsKeyed items

def FieldsKeyed : List (String × Violation) → Prop
  | [] => True
  | (name, v) :: rest => name ∉ rest.map Prod.fst ∧ v.Keyed ∧ FieldsKeyed rest

def ItemsKeyed : List (Nat × List (String × Violation)) → Prop
  | [] => True
  | (index, fields) :: rest =>
    index ∉ rest.map Prod.fst ∧ FieldsKeyed fields ∧ ItemsKeyed rest

end

theorem further_field (name : String) (rest : List Turn) :
    (further (.field name :: rest)).toList = '.' :: (name.toList ++ (further rest).toList) := by
  simp only [further, Turn.text, String.toList_append]
  rfl

theorem further_item (index : Nat) (rest : List Turn) :
    (further (.item index :: rest)).toList =
      '[' :: (Nat.toDigits 10 index ++ ']' :: (further rest).toList) := by
  simp only [further, Turn.text, String.toList_append, Nat.toString_eq_ofList_toDigits,
    String.toList_ofList, List.append_assoc]
  rfl

theorem further_head (route : List Turn) :
    ∀ c ∈ (further route).toList.head?, c = '.' ∨ c = '[' ∨ c = ']' := by
  intro c first
  cases route with
  | nil => cases first
  | cons turn rest =>
    cases turn with
    | field name =>
      rw [further_field] at first
      exact Or.inl (Option.some.inj first).symm
    | item index =>
      rw [further_item] at first
      exact Or.inr (Or.inl (Option.some.inj first).symm)

theorem further_injective {route route' : List Turn} (plain : ∀ turn ∈ route, turn.Plain)
    (plain' : ∀ turn ∈ route', turn.Plain) (same : further route = further route') :
    route = route' := by
  induction route generalizing route' with
  | nil =>
    cases route' with
    | nil => rfl
    | cons turn rest =>
      have empty : turn.text ++ further rest = "" := same.symm
      exact absurd (String.append_eq_empty_iff.mp empty).1 (text_ne_empty turn)
  | cons turn rest ih =>
    cases route' with
    | nil =>
      have empty : turn.text ++ further rest = "" := same
      exact absurd (String.append_eq_empty_iff.mp empty).1 (text_ne_empty turn)
    | cons turn' rest' =>
      have first := plain turn List.mem_cons_self
      have first' := plain' turn' List.mem_cons_self
      have others : further rest = further rest' → rest = rest' :=
        ih (fun t member => plain t (List.mem_cons_of_mem _ member))
          fun t member => plain' t (List.mem_cons_of_mem _ member)
      have chars := congrArg String.toList same
      cases turn with
      | field name =>
        cases turn' with
        | field name' =>
          rw [further_field, further_field] at chars
          obtain ⟨sameName, sameRest⟩ := front_unique
            (p := fun c => c = '.' ∨ c = '[' ∨ c = ']')
            (fun c member => by simpa using first.2 c member)
            (fun c member => by simpa using first'.2 c member)
            (further_head rest) (further_head rest') (List.cons.inj chars).2
          rw [String.toList_inj.mp sameName, others (String.toList_inj.mp sameRest)]
        | item index' =>
          rw [further_field, further_item] at chars
          exact absurd (List.cons.inj chars).1 (by decide)
      | item index =>
        cases turn' with
        | field name' =>
          rw [further_field, further_item] at chars
          exact absurd (List.cons.inj chars).1 (by decide)
        | item index' =>
          rw [further_item, further_item] at chars
          obtain ⟨sameIndex, sameRest⟩ := digits_told (by decide) (List.cons.inj chars).2
          rw [sameIndex, others (String.toList_inj.mp sameRest)]

theorem pathOf_injective {name name' : String} {rest rest' : List Turn}
    (plain : ∀ turn ∈ Turn.field name :: rest, turn.Plain)
    (plain' : ∀ turn ∈ Turn.field name' :: rest', turn.Plain)
    (same : pathOf (.field name :: rest) = pathOf (.field name' :: rest')) :
    Turn.field name :: rest = .field name' :: rest' := by
  have path {name : String} (named : name ≠ "") (rest : List Turn) :
      "." ++ pathOf (.field name :: rest) = further (.field name :: rest) := by
    have first : (Turn.field name :: rest).head? ≠ some (.field "") :=
      fun same => named (Turn.field.inj (Option.some.inj same))
    rw [pathOf_named first, dotted, ← String.append_assoc]
    rfl
  apply further_injective plain plain'
  rw [← path (plain _ List.mem_cons_self).1, ← path (plain' _ List.mem_cons_self).1, same]

theorem fieldsLeaves_route {fields : List (String × Violation)} {l : Leaf}
    (member : l ∈ fieldsLeaves fields) :
    ∃ name ∈ fields.map Prod.fst, ∃ rest, l.route = .field name :: rest := by
  rw [fieldsLeaves_eq] at member
  obtain ⟨f, entry, inside⟩ := List.mem_flatMap.mp member
  obtain ⟨below, _, rfl⟩ := List.mem_map.mp inside
  exact ⟨f.1, List.mem_map_of_mem entry, below.route, rfl⟩

theorem itemsLeaves_route {items : List (Nat × List (String × Violation))} {l : Leaf}
    (member : l ∈ itemsLeaves items) :
    ∃ index ∈ items.map Prod.fst, ∃ rest, l.route = .item index :: rest := by
  rw [itemsLeaves_eq] at member
  obtain ⟨i, entry, inside⟩ := List.mem_flatMap.mp member
  obtain ⟨below, _, rfl⟩ := List.mem_map.mp inside
  exact ⟨i.1, List.mem_map_of_mem entry, below.route, rfl⟩

theorem routes_under {turn : Turn} {first rest : List Leaf}
    (distinct : (first.map Leaf.route).Nodup) (distinct' : (rest.map Leaf.route).Nodup)
    (apart : ∀ l ∈ rest, ∀ below, l.route ≠ turn :: below) :
    ((first.map (Leaf.under turn) ++ rest).map Leaf.route).Nodup := by
  have routes : (first.map (Leaf.under turn)).map Leaf.route =
      (first.map Leaf.route).map (turn :: ·) := by
    rw [List.map_map, List.map_map]
    rfl
  rw [List.map_append, routes]
  refine List.nodup_append.mpr ⟨distinct.map fun _ _ same => (List.cons.inj same).2, distinct', ?_⟩
  intro route member route' member' same
  obtain ⟨below, _, rfl⟩ := List.mem_map.mp member
  obtain ⟨l, other, rfl⟩ := List.mem_map.mp member'
  exact apart l other below same.symm

mutual

theorem routes_distinct : ∀ {v : Violation}, v.Keyed → ((leaves v).map Leaf.route).Nodup
  | messages _, _ => List.nodup_singleton _
  | record _, keyed => fieldsRoutes_distinct keyed
  | list _, keyed => itemsRoutes_distinct keyed

theorem fieldsRoutes_distinct : ∀ {fields : List (String × Violation)}, FieldsKeyed fields →
    ((fieldsLeaves fields).map Leaf.route).Nodup
  | [], _ => List.nodup_nil
  | (name, v) :: rest, ⟨fresh, value, others⟩ => by
    apply routes_under (routes_distinct value) (fieldsRoutes_distinct others)
    intro l member below same
    obtain ⟨other, entry, _, route⟩ := fieldsLeaves_route member
    rw [route] at same
    obtain ⟨rfl⟩ := Turn.field.inj (List.cons.inj same).1
    exact fresh entry

theorem itemsRoutes_distinct : ∀ {items : List (Nat × List (String × Violation))},
    ItemsKeyed items → ((itemsLeaves items).map Leaf.route).Nodup
  | [], _ => List.nodup_nil
  | (index, fields) :: rest, ⟨fresh, value, others⟩ => by
    apply routes_under (fieldsRoutes_distinct value) (itemsRoutes_distinct others)
    intro l member below same
    obtain ⟨other, entry, _, route⟩ := itemsLeaves_route member
    rw [route] at same
    obtain ⟨rfl⟩ := Turn.item.inj (List.cons.inj same).1
    exact fresh entry

end

theorem paths_distinct {fields : List (String × Violation)} (keyed : FieldsKeyed fields)
    (plain : ∀ l ∈ fieldsLeaves fields, ∀ turn ∈ l.route, turn.Plain) :
    ((fieldsLeaves fields).map Leaf.path).Nodup := by
  have paths : (fieldsLeaves fields).map Leaf.path =
      ((fieldsLeaves fields).map Leaf.route).map pathOf := List.map_map.symm
  rw [paths]
  refine (fieldsRoutes_distinct keyed).map_on ?_
  intro route member route' member' same
  obtain ⟨l, leaf, rfl⟩ := List.mem_map.mp member
  obtain ⟨l', leaf', rfl⟩ := List.mem_map.mp member'
  have ok := plain l leaf
  have ok' := plain l' leaf'
  obtain ⟨name, _, rest, route⟩ := fieldsLeaves_route leaf
  obtain ⟨name', _, rest', route'⟩ := fieldsLeaves_route leaf'
  rw [route] at ok same ⊢
  rw [route'] at ok' same ⊢
  exact pathOf_injective ok ok' same

theorem soleField_of_perm {ordered : List Failure} {ls : List Leaf}
    (perm : ordered.Perm (ls.map Leaf.failure)) (path : String) :
    Failure.soleField ordered = some path ↔ ∃ l, ls = [l] ∧ l.path = path := by
  have paths : (ordered.map Failure.path).Perm (ls.map Leaf.path) := by
    refine (perm.map Failure.path).trans (.of_eq ?_)
    rw [List.map_map]
    rfl
  rw [Failure.soleField_eq_some_iff, ← List.map_eq_singleton_iff]
  constructor
  · intro sole
    rw [sole] at paths
    exact List.singleton_perm.mp paths |>.symm
  · intro sole
    rw [sole] at paths
    exact List.perm_singleton.mp paths

theorem report_of_leaves {fields : List (String × Violation)} {ls : List Leaf}
    (perm : (fieldsLeaves fields).Perm ls) :
    let ordered := (ls.map Leaf.failure).mergeSort Failure.before
    Problem.ofViolations fields = .validation
      ("Validation failed: " ++ "; ".intercalate (ordered.map Failure.describe))
      (Failure.soleField ordered) := by
  intro ordered
  have found : (fieldsFailures "" fields).Perm ordered := by
    rw [failures_of_leaves]
    exact (perm.map Leaf.failure).trans (List.mergeSort_perm _ _).symm
  exact Problem.ofFailures_of_perm found
    (List.pairwise_mergeSort Failure.before_trans Failure.before_total _)

/-- The report of a tree tells the path and the messages of each leaf once, in the order of paths
and then of messages, and the field if there is one leaf. It is the same in whatever order the maps
of the tree are enumerated. A path is the dotted text of the route to the leaf, if all fields have
names; if moreover these have no marks of a path in them, then no two leaves have the same path. -/
theorem reports_tell_each_leaf (fields : List (String × Violation)) :
    (∃ (ordered : List Failure) (field : Option String),
      Problem.ofViolations fields = .validation ("Validation failed: " ++
        "; ".intercalate (ordered.map fun f => f.path ++ ": " ++ f.message)) field ∧
      ordered.Perm ((fieldsLeaves fields).map Leaf.failure) ∧
      (ordered.Pairwise fun a b =>
        a.path < b.path ∨ a.path = b.path ∧ a.message ≤ b.message) ∧
      ∀ path, field = some path ↔ ∃ l, fieldsLeaves fields = [l] ∧ l.path = path) ∧
    (∀ fields', FieldsReordered fields fields' →
      Problem.ofViolations fields' = Problem.ofViolations fields) ∧
    (∀ l ∈ fieldsLeaves fields, Turn.field "" ∉ l.route → l.path = dotted l.route) ∧
    (FieldsKeyed fields → (∀ l ∈ fieldsLeaves fields, ∀ turn ∈ l.route, turn.Plain) →
      ((fieldsLeaves fields).map Leaf.path).Nodup) := by
  refine ⟨?_, ?_, ?_, paths_distinct⟩
  · have perm := List.mergeSort_perm ((fieldsLeaves fields).map Leaf.failure) Failure.before
    refine ⟨_, _, report_of_leaves (.refl _), perm, ?_, soleField_of_perm perm⟩
    exact (List.pairwise_mergeSort Failure.before_trans Failure.before_total _).imp
      Failure.before_iff.mp
  · intro fields' order
    have same := (fieldsLeaves_reordered order).symm
    rw [report_of_leaves same, report_of_leaves (.refl _)]
  · intro l _ named
    exact pathOf_named fun first => named (List.mem_of_head? first)

theorem reports_tell_each_leaf_of_a_record_and_a_list :
    let deadlines : List (String × Violation) :=
      [("secret", .messages [some "too short"]), ("list", .messages [none, some "odd"])]
    let items : List (Nat × List (String × Violation)) :=
      [(0, [("mode", .messages [some "not octal"])]), (10, [("mode", .messages [])])]
    let fields : List (String × Violation) :=
      [("timeouts", .record deadlines), ("kept", .list items)]
    let fields' : List (String × Violation) :=
      [("kept", .list items.reverse), ("timeouts", .record deadlines.reverse)]
    FieldsReordered fields fields' ∧
      Problem.ofViolations fields' = Problem.ofViolations fields ∧
      Problem.ofViolations fields = .validation ("Validation failed: kept[0].mode: not octal; " ++
        "kept[10].mode: ; timeouts.list: Invalid value, odd; timeouts.secret: too short") none ∧
      FieldsKeyed fields ∧ (∀ l ∈ fieldsLeaves fields, ∀ turn ∈ l.route, turn.Plain) ∧
      ((fieldsLeaves fields).map Leaf.path).Nodup := by
  intro deadlines items fields fields'
  have deadlinesTurned : FieldsReordered deadlines deadlines.reverse :=
    .perm (.swap _ _ _) (.cons "list" (.messages _) (.cons "secret" (.messages _) .nil))
  have itemsTurned : ItemsReordered items items.reverse :=
    .perm (.swap _ _ _) (.cons 10 (.cons "mode" (.messages _) .nil)
      (.cons 0 (.cons "mode" (.messages _) .nil) .nil))
  have turned : FieldsReordered fields fields' :=
    .perm (.swap _ _ _) (.cons "kept" (.list itemsTurned)
      (.cons "timeouts" (.record deadlinesTurned) .nil))
  have keyed : FieldsKeyed fields := by
    simp [fields, deadlines, items, FieldsKeyed, Keyed, ItemsKeyed]
  have plain : ∀ l ∈ fieldsLeaves fields, ∀ turn ∈ l.route, turn.Plain := by
    simp [fields, deadlines, items, fieldsLeaves, itemsLeaves, leaves, Leaf.under, Turn.Plain]
  obtain ⟨_, reordered, _, apart⟩ := reports_tell_each_leaf fields
  refine ⟨turned, reordered fields' turned, ?_, keyed, plain, apart keyed plain⟩
  have ordered : (fieldsFailures "" fields).Perm
      [⟨"kept[0].mode", "not octal"⟩, ⟨"kept[10].mode", ""⟩,
        ⟨"timeouts.list", "Invalid value, odd"⟩, ⟨"timeouts.secret", "too short"⟩] := by
    decide +kernel
  exact Problem.ofFailures_of_perm ordered (by decide +kernel)

end Violation
end SecretKeeper
