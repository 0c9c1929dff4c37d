/-
Property order of JavaScript objects, and the canonical form obtained by
sorting the properties of every object before it is written.

The order in which an object enumerates its properties is not simply the
order of creation: array indices come first, in ascending numeric order.
Equality up to property order is stated on its own, as the least congruence
that contains the reordering of members, and is then shown to be exactly
equality of canonical forms, hence of canonical texts.
-/

import ModelMux.Json.Parser
import Mathlib.Data.List.Perm.Basic
import Mathlib.Data.List.Nodup
import Mathlib.Data.List.Sort

namespace ModelMux

/-- Code-unit order of strings, the `<=` of the language. -/
def JsString.le : JsString → JsString → Bool
  | [], _ => true
  | _ :: _, [] => false
  | first :: rest, other :: others => first < other || (first = other && JsString.le rest others)

namespace JsString

theorem le_total (left right : JsString) : (le left right || le right left) = true := by
  induction left generalizing right with
  | nil => simp [le]
  | cons first rest ih =>
      cases right with
      | nil => simp [le]
      | cons other others =>
          have tails := ih others
          simp only [Bool.or_eq_true] at tails ⊢
          simp only [le, Bool.or_eq_true, decide_eq_true_eq, Bool.and_eq_true]
          have trichotomy := UInt16.lt_or_lt_of_ne (a := first) (b := other)
          by_cases same : first = other
          · subst same
            rcases tails with before | after
            · exact Or.inl (Or.inr ⟨rfl, before⟩)
            · exact Or.inr (Or.inr ⟨rfl, after⟩)
          · rcases trichotomy same with before | after
            · exact Or.inl (Or.inl before)
            · exact Or.inr (Or.inl after)

theorem le_trans (first second third : JsString) (left : le first second = true)
    (right : le second third = true) : le first third = true := by
  induction first generalizing second third with
  | nil => simp [le]
  | cons a as ih =>
      cases second with
      | nil => simp [le] at left
      | cons b bs =>
          cases third with
          | nil => simp [le] at right
          | cons c cs =>
              simp only [le, Bool.or_eq_true, decide_eq_true_eq, Bool.and_eq_true] at left right ⊢
              rcases left with below | ⟨same, tail⟩
              · rcases right with below' | ⟨same', _⟩
                · exact Or.inl (UInt16.lt_trans below below')
                · exact Or.inl (same' ▸ below)
              · rcases right with below' | ⟨same', tail'⟩
                · exact Or.inl (same ▸ below')
                · exact Or.inr ⟨same.trans same', ih bs cs tail tail'⟩

theorem le_antisymm (left right : JsString) (below : le left right = true)
    (above : le right left = true) : left = right := by
  induction left generalizing right with
  | nil =>
      cases right with
      | nil => rfl
      | cons => simp [le] at above
  | cons first rest ih =>
      cases right with
      | nil => simp [le] at below
      | cons other others =>
          simp only [le, Bool.or_eq_true, decide_eq_true_eq, Bool.and_eq_true] at below above
          rcases below with strict | ⟨same, tail⟩
          · rcases above with strict' | ⟨same', _⟩
            · exact absurd (UInt16.lt_trans strict strict') (UInt16.lt_irrefl first)
            · exact absurd (same' ▸ strict) (UInt16.lt_irrefl first)
          · rcases above with strict' | ⟨_, tail'⟩
            · exact absurd (same ▸ strict') (UInt16.lt_irrefl other)
            · rw [same, ih others tail tail']

end JsString

namespace Json

abbrev Member := JsString × Json

/-- The array index a property key spells, if it spells one canonically. -/
def arrayIndex? (key : JsString) : Option Nat :=
  let value := key.foldl (fun total unit => 10 * total + unit.digitValue) 0
  if key ≠ [] ∧ key.all CodeUnit.isDigit = true ∧ (key = [0x30] ∨ key.head? ≠ some 0x30) ∧
      value < 4294967295 then some value
  else none

/-- `OrdinaryOwnPropertyKeys`: array indices ascending, then the other keys in
the order in which they were created. -/
def ownOrder (members : List Member) : List Member :=
  (members.filter (fun member => (arrayIndex? member.1).isSome)).insertionSort
      (fun left right => (arrayIndex? left.1).getD 0 ≤ (arrayIndex? right.1).getD 0) ++
    members.filter (fun member => !(arrayIndex? member.1).isSome)

/-- `CreateDataProperty`: an existing key keeps its place and gets the new value. -/
def setMember (members : List Member) (entry : Member) : List Member :=
  if members.any (fun member => member.1 = entry.1) then
    members.map (fun member => if member.1 = entry.1 then entry else member)
  else members ++ [entry]

def fromEntries (entries : List Member) : List Member :=
  ownOrder (entries.foldl setMember [])

def sortEntries (entries : List Member) : List Member :=
  entries.insertionSort (fun left right => JsString.le left.1 right.1 = true)

mutual

/-- The value written by `JSON.stringify` with the key-sorting replacer. The
order depends on the keys alone, so the members may be visited before they are
sorted; `canonicalize_object` states the replacer's own order of work. -/
def canonicalize : Json → Json
  | .null => .null
  | .bool value => .bool value
  | .number token => .number token
  | .string units => .string units
  | .array items => .array (canonicalizeItems items)
  | .object members => .object (fromEntries (sortEntries (canonicalizeMembers members)))

def canonicalizeItems : List Json → List Json
  | [] => []
  | item :: rest => canonicalize item :: canonicalizeItems rest

def canonicalizeMembers : List Member → List Member
  | [] => []
  | (key, value) :: rest => (key, canonicalize value) :: canonicalizeMembers rest

end

def canonicalText (value : Json) : JsString := print (canonicalize value)

mutual

/-- No object, at any depth, has two members of one key. -/
def DistinctKeys : Json → Prop
  | .array items => DistinctKeysItems items
  | .object members => (members.map Prod.fst).Nodup ∧ DistinctKeysMembers members
  | _ => True

def DistinctKeysItems : List Json → Prop
  | [] => True
  | item :: rest => DistinctKeys item ∧ DistinctKeysItems rest

def DistinctKeysMembers : List Member → Prop
  | [] => True
  | (_, value) :: rest => DistinctKeys value ∧ DistinctKeysMembers rest

end

/-- Equality up to the order of object members at every depth. -/
inductive Reordered : Json → Json → Prop
  | refl (value : Json) : Reordered value value
  | trans {left middle right : Json} (first : Reordered left middle)
      (second : Reordered middle right) : Reordered left right
  | members {left right : List Member} (moved : left.Perm right) :
      Reordered (.object left) (.object right)
  | item {value value' : Json} (before after : List Json) (inside : Reordered value value') :
      Reordered (.array (before ++ value :: after)) (.array (before ++ value' :: after))
  | member {value value' : Json} (before after : List Member) (key : JsString)
      (inside : Reordered value value') :
      Reordered (.object (before ++ (key, value) :: after))
        (.object (before ++ (key, value') :: after))

mutual

/-- The JavaScript value of a parsed text: each object is built from its
members, so a repeated key keeps its first place and its last value. -/
def build : Json → Json
  | .null => .null
  | .bool value => .bool value
  | .number token => .number token
  | .string units => .string units
  | .array items => .array (buildItems items)
  | .object members => .object (fromEntries (buildMembers members))

def buildItems : List Json → List Json
  | [] => []
  | item :: rest => build item :: buildItems rest

def buildMembers : List Member → List Member
  | [] => []
  | (key, value) :: rest => (key, build value) :: buildMembers rest

end

/-- `JSON.parse`, with `none` for a thrown `SyntaxError`. -/
def parse (text : JsString) : Option Json := (parseText text).map build

def get (members : List Member) (key : JsString) : Option Json :=
  (members.find? (fun member => member.1 = key)).map Prod.snd

/-! ### Structural lemmas -/

theorem canonicalizeItems_eq_map (items : List Json) :
    canonicalizeItems items = items.map canonicalize := by
  induction items with
  | nil => rfl
  | cons item rest ih => rw [canonicalizeItems, ih, List.map_cons]

theorem canonicalizeMembers_eq_map (members : List Member) :
    canonicalizeMembers members = members.map (fun member => (member.1, canonicalize member.2)) := by
  induction members with
  | nil => rfl
  | cons member rest ih => rw [canonicalizeMembers, ih, List.map_cons]

theorem distinctKeysItems_iff (items : List Json) :
    DistinctKeysItems items ↔ ∀ item ∈ items, DistinctKeys item := by
  induction items with
  | nil => simp [DistinctKeysItems]
  | cons item rest ih => simp [DistinctKeysItems, ih]

theorem distinctKeysMembers_iff (members : List Member) :
    DistinctKeysMembers members ↔ ∀ member ∈ members, DistinctKeys member.2 := by
  induction members with
  | nil => simp [DistinctKeysMembers]
  | cons member rest ih => simp [DistinctKeysMembers, ih]

/-! ### Sorting and property order -/

theorem sortEntries_perm (entries : List Member) : (sortEntries entries).Perm entries :=
  List.perm_insertionSort _ _

theorem sortEntries_pairwise (entries : List Member) :
    (sortEntries entries).Pairwise (fun left right => JsString.le left.1 right.1 = true) := by
  have total : Std.Total (fun left right : Member => JsString.le left.1 right.1 = true) :=
    ⟨fun left right => by simpa using JsString.le_total left.1 right.1⟩
  have transitive : IsTrans Member (fun left right => JsString.le left.1 right.1 = true) :=
    ⟨fun first second third => JsString.le_trans first.1 second.1 third.1⟩
  exact List.pairwise_insertionSort _ entries

theorem sortEntries_eq_of_perm {left right : List Member} (moved : left.Perm right)
    (distinct : (left.map Prod.fst).Nodup) : sortEntries left = sortEntries right := by
  refine List.Perm.eq_of_pairwise ?_ (sortEntries_pairwise left) (sortEntries_pairwise right)
    ((sortEntries_perm left).trans (moved.trans (sortEntries_perm right).symm))
  intro a b leftMember rightMember below above
  have inLeft : a ∈ left := (sortEntries_perm left).mem_iff.mp leftMember
  have alsoLeft : b ∈ left := moved.mem_iff.mpr ((sortEntries_perm right).mem_iff.mp rightMember)
  exact List.inj_on_of_nodup_map distinct inLeft alsoLeft (JsString.le_antisymm _ _ below above)

theorem foldl_setMember {entries members : List Member}
    (distinct : ((members ++ entries).map Prod.fst).Nodup) :
    entries.foldl setMember members = members ++ entries := by
  induction entries generalizing members with
  | nil => simp
  | cons entry rest ih =>
      have fresh : members.any (fun member => decide (member.1 = entry.1)) = false := by
        rw [List.any_eq_false]
        intro member present same
        rw [List.map_append, List.nodup_append] at distinct
        exact distinct.2.2 member.1 (List.mem_map_of_mem present) entry.1 (by simp)
          (by simpa using same)
      rw [List.foldl_cons]
      have placed : setMember members entry = members ++ [entry] := by
        unfold setMember
        rw [fresh]
        simp
      rw [placed, ih (by simpa using distinct)]
      simp

theorem ownOrder_perm (members : List Member) : (ownOrder members).Perm members := by
  unfold ownOrder
  exact ((List.perm_insertionSort _ _).append_right _).trans
    (List.filter_append_perm (fun member => (arrayIndex? member.1).isSome) members)

theorem fromEntries_perm {entries : List Member} (distinct : (entries.map Prod.fst).Nodup) :
    (fromEntries entries).Perm entries := by
  have built : entries.foldl setMember [] = entries := by
    have placed : (([] ++ entries : List Member).map Prod.fst).Nodup := distinct
    rw [foldl_setMember placed, List.nil_append]
  unfold fromEntries
  rw [built]
  exact ownOrder_perm entries

/-! The replacer sorts the members of an object before it visits their values. -/

private theorem setMember_map (visit : Json → Json) (members : List Member) (entry : Member) :
    setMember (members.map (fun member => (member.1, visit member.2))) (entry.1, visit entry.2) =
      (setMember members entry).map (fun member => (member.1, visit member.2)) := by
  unfold setMember
  rw [List.any_map]
  by_cases present : members.any (fun member => decide (member.1 = entry.1)) = true
  · have present' : members.any ((fun member => decide (member.1 = entry.1)) ∘
        fun member => (member.1, visit member.2)) = true := present
    rw [if_pos present, if_pos present', List.map_map, List.map_map]
    apply List.map_congr_left
    intro member _present
    simp only [Function.comp_apply]
    split <;> rfl
  · have present' : ¬members.any ((fun member => decide (member.1 = entry.1)) ∘
        fun member => (member.1, visit member.2)) = true := present
    rw [if_neg present, if_neg present', List.map_append]
    rfl

private theorem foldl_setMember_map (visit : Json → Json) (entries members : List Member) :
    (entries.map (fun member => (member.1, visit member.2))).foldl setMember
        (members.map (fun member => (member.1, visit member.2))) =
      (entries.foldl setMember members).map (fun member => (member.1, visit member.2)) := by
  induction entries generalizing members with
  | nil => rfl
  | cons entry rest ih =>
      rw [List.map_cons, List.foldl_cons, List.foldl_cons, setMember_map, ih]

private theorem ownOrder_map (visit : Json → Json) (members : List Member) :
    ownOrder (members.map (fun member => (member.1, visit member.2))) =
      (ownOrder members).map (fun member => (member.1, visit member.2)) := by
  unfold ownOrder
  rw [List.map_append, List.filter_map, List.filter_map]
  congr 1
  symm
  apply List.map_insertionSort
  intro left _leftMember right _rightMember
  rfl

theorem canonicalize_object (members : List Member) :
    canonicalize (.object members) =
      .object ((fromEntries (sortEntries members)).map
        (fun member => (member.1, canonicalize member.2))) := by
  have sorted : sortEntries (members.map (fun member => (member.1, canonicalize member.2))) =
      (sortEntries members).map (fun member => (member.1, canonicalize member.2)) := by
    symm
    apply List.map_insertionSort
    intro left _leftMember right _rightMember
    rfl
  have folded := foldl_setMember_map canonicalize (sortEntries members) []
  rw [List.map_nil] at folded
  rw [canonicalize, canonicalizeMembers_eq_map, sorted]
  unfold fromEntries
  rw [folded, ownOrder_map]

/-! ### Canonical forms decide equality up to property order -/

theorem induction {holds : Json → Prop} (null : holds .null)
    (bool : ∀ value, holds (.bool value)) (number : ∀ token, holds (.number token))
    (string : ∀ units, holds (.string units))
    (array : ∀ items, (∀ item ∈ items, holds item) → holds (.array items))
    (object : ∀ members : List Member, (∀ member ∈ members, holds member.2) →
      holds (.object members)) (value : Json) : holds value := by
  refine @Json.rec holds (fun items => ∀ item ∈ items, holds item)
    (fun members => ∀ member ∈ members, holds member.2) (fun member => holds member.2)
    null bool number string array object ?_ ?_ ?_ ?_ ?_ value
  · simp
  · intro item rest here later other member
    rcases List.mem_cons.mp member with same | tail
    · exact same ▸ here
    · exact later other tail
  · simp
  · intro member rest here later other present
    rcases List.mem_cons.mp present with same | tail
    · exact same ▸ here
    · exact later other tail
  · intro key value holdsValue
    exact holdsValue

theorem Reordered.symm {left right : Json} (same : Reordered left right) :
    Reordered right left := by
  induction same with
  | refl value => exact .refl value
  | trans _ _ first second => exact .trans second first
  | members moved => exact .members moved.symm
  | item before after _ ih => exact .item before after ih
  | member before after key _ ih => exact .member before after key ih

theorem Reordered.array {items items' : List Json} (before : List Json)
    (each : List.Forall₂ Reordered items items') :
    Reordered (.array (before ++ items)) (.array (before ++ items')) := by
  induction each generalizing before with
  | nil => exact .refl _
  | @cons item item' rest rest' here _ ih =>
      have later := ih (before ++ [item'])
      simp only [List.append_assoc, List.singleton_append] at later
      exact .trans (.item before rest here) later

theorem Reordered.values {members : List Member} (visit : Json → Json) (before : List Member)
    (each : ∀ member ∈ members, Reordered member.2 (visit member.2)) :
    Reordered (.object (before ++ members))
      (.object (before ++ members.map (fun member => (member.1, visit member.2)))) := by
  induction members generalizing before with
  | nil => exact .refl _
  | cons member rest ih =>
      have later := ih (before ++ [(member.1, visit member.2)])
        (fun other present => each other (List.mem_cons_of_mem member present))
      simp only [List.append_assoc, List.singleton_append] at later
      exact .trans (.member before rest member.1 (each member List.mem_cons_self)) later

theorem reordered_canonicalize (value : Json) (distinct : DistinctKeys value) :
    Reordered value (canonicalize value) := by
  induction value using Json.induction with
  | null => exact .refl _
  | bool value => exact .refl _
  | number token => exact .refl _
  | string units => exact .refl _
  | array items ih =>
      rw [canonicalize, canonicalizeItems_eq_map]
      apply Reordered.array []
      rw [List.forall₂_map_right_iff, List.forall₂_same]
      intro item member
      exact ih item member ((distinctKeysItems_iff items).mp distinct item member)
  | object members ih =>
      obtain ⟨keys, values⟩ := distinct
      rw [canonicalize, canonicalizeMembers_eq_map]
      have visited := Reordered.values canonicalize []
        (fun member present =>
          ih member present ((distinctKeysMembers_iff members).mp values member present))
      refine .trans visited (.members ?_)
      have keysSorted : ((sortEntries (members.map
          (fun member => (member.1, canonicalize member.2)))).map Prod.fst).Nodup := by
        rw [((sortEntries_perm _).map Prod.fst).nodup_iff, List.map_map]
        exact keys
      exact ((fromEntries_perm keysSorted).trans (sortEntries_perm _)).symm

theorem Reordered.distinctKeys {left right : Json} (same : Reordered left right)
    (distinct : DistinctKeys left) : DistinctKeys right := by
  induction same with
  | refl => exact distinct
  | trans _ _ first second => exact second (first distinct)
  | members moved =>
      refine ⟨((moved.map Prod.fst).nodup_iff).mp distinct.1, ?_⟩
      rw [distinctKeysMembers_iff]
      intro member present
      exact (distinctKeysMembers_iff _).mp distinct.2 member (moved.mem_iff.mpr present)
  | item before after _ ih =>
      have items := (distinctKeysItems_iff _).mp distinct
      apply (distinctKeysItems_iff _).mpr
      intro item present
      rcases List.mem_append.mp present with early | late
      · exact items item (List.mem_append_left _ early)
      · rcases List.mem_cons.mp late with here | later
        · exact here ▸ ih (items _ (by simp))
        · exact items item (List.mem_append_right _ (List.mem_cons_of_mem _ later))
  | member before after key _ ih =>
      have values := (distinctKeysMembers_iff _).mp distinct.2
      refine ⟨by simpa using distinct.1, (distinctKeysMembers_iff _).mpr ?_⟩
      intro member present
      rcases List.mem_append.mp present with early | late
      · exact values member (List.mem_append_left _ early)
      · rcases List.mem_cons.mp late with here | later
        · rw [here]
          exact ih (values (key, _) (by simp))
        · exact values member (List.mem_append_right _ (List.mem_cons_of_mem _ later))

theorem Reordered.canonicalize_eq {left right : Json} (same : Reordered left right)
    (distinct : DistinctKeys left) : canonicalize left = canonicalize right := by
  induction same with
  | refl => rfl
  | trans first _ ihFirst ihSecond =>
      exact (ihFirst distinct).trans (ihSecond (first.distinctKeys distinct))
  | @members left right moved =>
      rw [canonicalize, canonicalize, canonicalizeMembers_eq_map, canonicalizeMembers_eq_map]
      have keys : ((left.map (fun member => (member.1, canonicalize member.2))).map
          Prod.fst).Nodup := by
        rw [List.map_map]
        exact distinct.1
      rw [sortEntries_eq_of_perm (moved.map _) keys]
  | @item value _ before after _ ih =>
      have inside := (distinctKeysItems_iff _).mp distinct value (by simp)
      simp only [canonicalize, canonicalizeItems_eq_map, List.map_append, List.map_cons,
        ih inside]
  | @member value _ before after key _ ih =>
      have inside := (distinctKeysMembers_iff _).mp distinct.2 (key, value) (by simp)
      simp only [canonicalize, canonicalizeMembers_eq_map, List.map_append, List.map_cons,
        ih inside]

/-- Two values have one canonical text exactly when they are equal up to the
order of object members. -/
theorem canonicalText_eq_iff {left right : Json} (distinctLeft : DistinctKeys left)
    (distinctRight : DistinctKeys right) :
    canonicalText left = canonicalText right ↔ Reordered left right := by
  constructor
  · intro sameText
    have same := print_injective sameText
    have written := reordered_canonicalize left distinctLeft
    rw [same] at written
    exact .trans written (reordered_canonicalize right distinctRight).symm
  · intro same
    unfold canonicalText
    rw [same.canonicalize_eq distinctLeft]

end Json

end ModelMux
