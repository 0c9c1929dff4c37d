/-
What the canonical text says about a value.

`JSON.stringify` hands every value to the replacer before it writes what the
replacer has returned, member by member.  With the replacer that sorts the keys
it writes the canonical form.  Equality up to the order of members is unfolded
by one level: arrays agree item by item, objects member by member after one of
them has been reordered, and everything else only with itself.
-/

import ModelMux.Json.Canonical

namespace ModelMux.Json

/-! ### Replacers -/

def isScalar : Json → Bool
  | .array _ => false
  | .object _ => false
  | _ => true

inductive Replaced (replacer : Json → Json) : Json → Json → Prop
  | scalar {value : Json} (plain : (replacer value).isScalar = true) :
      Replaced replacer value (replacer value)
  | array {value : Json} {items written : List Json} (returned : replacer value = .array items)
      (each : List.Forall₂ (Replaced replacer) items written) :
      Replaced replacer value (.array written)
  | object {value : Json} {members written : List Member}
      (returned : replacer value = .object members)
      (keys : written.map Prod.fst = members.map Prod.fst)
      (each : List.Forall₂ (Replaced replacer) (members.map Prod.snd) (written.map Prod.snd)) :
      Replaced replacer value (.object written)

def sortKeys : Json → Json
  | .object members => .object (fromEntries (sortEntries members))
  | item => item

theorem mem_setMember {members : List Member} {entry member : Member}
    (present : member ∈ setMember members entry) : member ∈ members ∨ member = entry := by
  unfold setMember at present
  split_ifs at present
  · obtain ⟨other, old, rfl⟩ := List.mem_map.mp present
    split_ifs
    · exact .inr rfl
    · exact .inl old
  · simpa using present

theorem mem_foldl_setMember {entries members : List Member} {member : Member}
    (present : member ∈ entries.foldl setMember members) : member ∈ members ∨ member ∈ entries := by
  induction entries generalizing members with
  | nil => exact .inl present
  | cons entry rest ih =>
      rcases ih present with set | later
      · rcases mem_setMember set with old | rfl
        · exact .inl old
        · exact .inr List.mem_cons_self
      · exact .inr (List.mem_cons_of_mem entry later)

theorem mem_fromEntries {entries : List Member} {member : Member}
    (present : member ∈ fromEntries entries) : member ∈ entries := by
  have placed := (ownOrder_perm _).subset present
  simpa using mem_foldl_setMember placed

theorem mem_of_mem_sorted {members : List Member} {member : Member}
    (present : member ∈ fromEntries (sortEntries members)) : member ∈ members :=
  (sortEntries_perm members).subset (mem_fromEntries present)

private theorem forall₂_eq_map {visit : Json → Json} {written items : List Json}
    {related : Json → Json → Prop}
    (decided : ∀ item ∈ items, ∀ other, related item other ↔ other = visit item) :
    List.Forall₂ related items written ↔ written = items.map visit := by
  constructor
  · intro each
    induction each with
    | nil => rfl
    | @cons item other rest others here _ ih =>
        rw [List.map_cons, (decided item List.mem_cons_self other).mp here,
          ih (fun later member => decided later (List.mem_cons_of_mem item member))]
  · rintro rfl
    rw [List.forall₂_map_right_iff, List.forall₂_same]
    intro item member
    exact (decided item member _).mpr rfl

private theorem members_eq {left right : List Member}
    (keys : left.map Prod.fst = right.map Prod.fst) (values : left.map Prod.snd = right.map Prod.snd) :
    left = right :=
  (List.zip_of_prod keys values).trans (List.zip_of_prod rfl rfl).symm

/-- With the sorting replacer `JSON.stringify` writes the canonical form. -/
theorem replaced_sortKeys_iff (value written : Json) :
    Replaced sortKeys value written ↔ written = canonicalize value := by
  induction value using Json.induction generalizing written with
  | null | bool _ | number _ | string _ =>
      constructor
      · intro replaced
        cases replaced with
        | scalar plain => rfl
        | array returned each => cases returned
        | object returned keys each => cases returned
      · rintro rfl
        exact .scalar rfl
  | array items ih =>
      have each := @forall₂_eq_map canonicalize
      rw [canonicalize, canonicalizeItems_eq_map]
      constructor
      · intro replaced
        cases replaced with
        | scalar plain => cases plain
        | array returned each' =>
            cases returned
            rw [(each ih).mp each']
        | object returned keys each' => cases returned
      · rintro rfl
        exact .array rfl ((each ih).mpr rfl)
  | object members ih =>
      have decided : ∀ value ∈ (fromEntries (sortEntries members)).map Prod.snd, ∀ other,
          Replaced sortKeys value other ↔ other = canonicalize value := by
        intro value present other
        obtain ⟨member, listed, rfl⟩ := List.mem_map.mp present
        exact ih member (mem_of_mem_sorted listed) other
      rw [canonicalize_object]
      constructor
      · intro replaced
        cases replaced with
        | scalar plain => cases plain
        | array returned each => cases returned
        | @object _ _ written returned keys each =>
            cases returned
            have values := (forall₂_eq_map decided).mp each
            rw [@members_eq written ((fromEntries (sortEntries members)).map
              (fun member => (member.1, canonicalize member.2)))]
            · rw [keys, List.map_map]
              rfl
            · rw [values, List.map_map, List.map_map]
              rfl
      · rintro rfl
        refine .object rfl ?_ ((forall₂_eq_map decided).mpr ?_)
        · rw [List.map_map]
          rfl
        · rw [List.map_map, List.map_map]
          rfl

/-- `JSON.stringify(value, replacer)`. -/
def StringifiedAs (replacer : Json → Json) (value : Json) (text : JsString) : Prop :=
  ∃ written, Replaced replacer value written ∧ text = written.print

theorem stringifiedAs_sortKeys_iff (value : Json) (text : JsString) :
    StringifiedAs sortKeys value text ↔ text = canonicalText value := by
  simp only [StringifiedAs, replaced_sortKeys_iff, exists_eq_left]
  rfl

/-! ### One level of equality up to order -/

def AlikeMember (left right : Member) : Prop := left.1 = right.1 ∧ Reordered left.2 right.2

/-- Equality up to the order of members, unfolded once. -/
def Alike : Json → Json → Prop
  | .array items, .array items' => List.Forall₂ Reordered items items'
  | .object members, .object members' =>
      ∃ moved, members.Perm moved ∧ List.Forall₂ AlikeMember moved members'
  | left, right => left = right

theorem alike_refl (value : Json) : Alike value value := by
  cases value with
  | array items =>
      exact List.forall₂_same.mpr (fun item _ => .refl item)
  | object members =>
      exact ⟨members, .refl members, List.forall₂_same.mpr (fun member _ => ⟨rfl, .refl _⟩)⟩
  | null | bool _ | number _ | string _ => rfl

theorem alike_scalar {left right : Json} (plain : left.isScalar = true) :
    Alike left right ↔ left = right := by
  cases left with
  | array items => cases plain
  | object members => cases plain
  | null | bool _ | number _ | string _ =>
      cases right <;> rfl

theorem AlikeMember.trans {left middle right : Member} (first : AlikeMember left middle)
    (second : AlikeMember middle right) : AlikeMember left right :=
  ⟨first.1.trans second.1, first.2.trans second.2⟩

private theorem forall₂_trans {Item : Type} {related : Item → Item → Prop}
    (chain : ∀ {left middle right}, related left middle → related middle right →
      related left right) {left middle right : List Item}
    (first : List.Forall₂ related left middle) (second : List.Forall₂ related middle right) :
    List.Forall₂ related left right := by
  induction first generalizing right with
  | nil => exact second
  | cons here _ ih =>
      cases second with
      | cons next later => exact .cons (chain here next) (ih later)

theorem alike_trans {left middle right : Json} (first : Alike left middle)
    (second : Alike middle right) : Alike left right := by
  cases left with
  | null | bool _ | number _ | string _ =>
      obtain rfl := (alike_scalar rfl).mp first
      exact second
  | array items =>
      match middle, right, first, second with
      | .array _, .array _, first, second =>
          exact forall₂_trans (fun here next => here.trans next) first second
  | object members =>
      match middle, right, first, second with
      | .object _, .object _, ⟨moved, left, each⟩, ⟨moved', right, each'⟩ =>
          -- The second reordering is moved before the first comparison of members.
          have composed : Relation.Comp (List.Forall₂ AlikeMember) List.Perm moved moved' :=
            ⟨_, each, right⟩
          rw [List.forall₂_comp_perm_eq_perm_comp_forall₂] at composed
          obtain ⟨aligned, again, each⟩ := composed
          exact ⟨aligned, left.trans again,
            forall₂_trans (fun here next => here.trans next) each each'⟩

theorem Reordered.memberwise {members members' : List Member} (before : List Member)
    (each : List.Forall₂ AlikeMember members members') :
    Reordered (.object (before ++ members)) (.object (before ++ members')) := by
  induction each generalizing before with
  | nil => exact .refl _
  | @cons member member' rest rest' here _ ih =>
      obtain ⟨key, value⟩ := member
      obtain ⟨key', value'⟩ := member'
      obtain ⟨rfl, inside⟩ := here
      have later := ih (before ++ [(key, value')])
      simp only [List.append_assoc, List.singleton_append] at later
      exact .trans (.member before rest key inside) later

/-- Arrays keep their order, objects their keys, and nothing else is confused. -/
theorem reordered_iff_alike (left right : Json) : Reordered left right ↔ Alike left right := by
  constructor
  · intro same
    induction same with
    | refl value => exact alike_refl value
    | trans _ _ first second => exact alike_trans first second
    | @members left right moved =>
        exact ⟨right, moved, List.forall₂_same.mpr (fun _ _ => ⟨rfl, .refl _⟩)⟩
    | item before after inside _ =>
        refine List.rel_append (List.forall₂_same.mpr (fun item _ => .refl item)) ?_
        exact .cons inside (List.forall₂_same.mpr (fun item _ => .refl item))
    | member before after key inside _ =>
        refine ⟨_, .refl _, ?_⟩
        refine List.rel_append (List.forall₂_same.mpr (fun _ _ => ⟨rfl, .refl _⟩)) ?_
        exact .cons ⟨rfl, inside⟩ (List.forall₂_same.mpr (fun _ _ => ⟨rfl, .refl _⟩))
  · intro alike
    cases left with
    | null | bool _ | number _ | string _ =>
        obtain rfl := (alike_scalar rfl).mp alike
        exact .refl _
    | array items =>
        match right, alike with
        | .array items', each => exact Reordered.array [] each
    | object members =>
        match right, alike with
        | .object members', ⟨moved, reordered, each⟩ =>
            exact .trans (.members reordered) (Reordered.memberwise [] each)

end ModelMux.Json
