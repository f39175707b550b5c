import TableScript.Proofs.Operation.Law
import TableScript.Proofs.Schema.Resolved

set_option autoImplicit false

namespace TableScript

open List (Forall₂)

namespace FieldDecl

/-- The values that can become the fallback of the field. -/
def fallbacks (decl : FieldDecl) : List Value := decl.fallback.toList ++ decl.options.map (·.2)

/-- Options change neither the name nor the metadata, and a fallback is one of the given values. -/
structure Follows (decl : FieldDecl) (field : Field Value) : Prop where
  name : field.name = decl.name
  metadata : field.metadata = .ofList decl.metadata
  fallback : ∀ value, field.fallback = some value → value ∈ decl.fallbacks

/-- What holds of the field that a declaration stands for holds of what it makes. -/
theorem build_gives [RegexEngine] {decl : FieldDecl} {post : Field Value → Prop} (holds : post decl.resolved) :
    Gives post decl.build := by
  rw [build_eq]
  cases decl.fault? with
  | some error => exact gives_error error
  | none => exact gives_ok.mpr holds

theorem follows_resolved (decl : FieldDecl) : decl.Follows decl.resolved where
  name := rfl
  metadata := rfl
  fallback value same := by
    rcases Option.or_eq_some_iff.mp same with given | ⟨-, declared⟩
    · obtain ⟨option, member, read⟩ := List.exists_of_findSome?_eq_some given
      rw [valueUnder?, Option.ite_none_right_eq_some] at read
      obtain rfl := Option.some.inj read.2
      exact List.mem_append_right _ (List.mem_map_of_mem (List.mem_reverse.mp member))
    · exact List.mem_append_left _ (Option.mem_toList.mpr declared)

theorem build_follows [RegexEngine] (decl : FieldDecl) : Gives decl.Follows decl.build :=
  build_gives decl.follows_resolved

/-- What the options make of the bounds, which are all lengths or all values: the last of each name counts. -/
structure Limited (lengths : Bool) (options : List (String × Value)) (before after : Field Value) : Prop where
  typeName : after.typeName = before.typeName
  minLength : after.minLength = (lengthBound lengths (lastInteger? options "min")).or before.minLength
  maxLength : after.maxLength = (lengthBound lengths (lastInteger? options "max")).or before.maxLength
  minValue : after.minValue = (valueBound lengths (lastInteger? options "min")).or before.minValue
  maxValue : after.maxValue = (valueBound lengths (lastInteger? options "max")).or before.maxValue

theorem limited_resolved (decl : FieldDecl) :
    Limited (boundsLength decl.typeName) decl.options decl.draft.field decl.resolved :=
  ⟨rfl, Option.or_none.symm, Option.or_none.symm, Option.or_none.symm, Option.or_none.symm⟩

theorem build_limited [RegexEngine] (decl : FieldDecl) :
    Gives (Limited (boundsLength decl.typeName) decl.options decl.draft.field) decl.build :=
  build_gives decl.limited_resolved

/-- What the options make of the bounds of numbers: the last of each name counts. -/
structure Bounded (options : List (String × Value)) (before after : Field Value) : Prop where
  typeName : after.typeName = before.typeName
  least : after.minValue = (lastInteger? options "min").or before.minValue
  most : after.maxValue = (lastInteger? options "max").or before.maxValue

theorem build_bounded [RegexEngine] {decl : FieldDecl} (numeric : boundsLength decl.typeName = false) :
    Gives (Bounded decl.options decl.draft.field) decl.build := by
  refine (build_limited decl).imp fun field limited => ?_
  rw [numeric] at limited
  exact ⟨limited.typeName, limited.minValue, limited.maxValue⟩

end FieldDecl

namespace Schema

/-- Different names, and every field built from one of the declarations. -/
structure Declared (decls : List FieldDecl) (fields : List (Field Value)) : Prop where
  nodup : (fields.map (·.name)).Nodup
  built : ∀ field ∈ fields, ∃ decl ∈ decls, decl.Follows field

variable [RegexEngine]

theorem declareField_declared {decls : List FieldDecl} {fields : List (Field Value)} {decl : FieldDecl}
    (declared : Declared decls fields) (listed : decl ∈ decls) :
    Gives (Declared decls) (declareField fields decl) := by
  refine (FieldDecl.build_follows decl).bind fun field follows => ?_
  dsimp only
  split
  · exact gives_bind fun _ failed => nomatch failed
  · rename_i fresh
    refine gives_pure.mpr ⟨?_, ?_⟩
    · have absent : field.name ∉ fields.map (·.name) := by
        intro member
        obtain ⟨other, earlier, same⟩ := List.mem_map.mp member
        exact fresh (List.any_eq_true.mpr ⟨other, earlier, by simpa using same⟩)
      rw [List.map_append]
      exact (List.perm_append_singleton field.name _).nodup_iff.mpr
        (List.nodup_cons.mpr ⟨absent, declared.nodup⟩)
    · intro other member
      rcases List.mem_append.mp member with earlier | last
      · exact declared.built other earlier
      · rw [List.mem_singleton.mp last]
        exact ⟨decl, listed, follows⟩

theorem declare_declared (id : Nat) (name : String) (decls : List FieldDecl) :
    Gives (fun schema : Schema Value => Declared decls schema.fields) (declare id name decls) := by
  have started : Declared decls [] := ⟨List.nodup_nil, fun _ member => nomatch member⟩
  have folded : Gives (Declared decls) (decls.foldlM declareField []) :=
    Gives.foldlM started fun _ _ listed declared => declareField_declared declared listed
  refine folded.bind fun fields declared => ?_
  rw [gives_pure]
  exact declared

theorem foldlM_builds (decls : List FieldDecl) (fields : List (Field Value)) :
    Gives (fun all => ∃ made, all = fields ++ made ∧ Forall₂ (fun decl field => decl.build = .ok field) decls made)
      (decls.foldlM declareField fields) := by
  induction decls generalizing fields with
  | nil => exact gives_pure.mpr ⟨[], (List.append_nil fields).symm, .nil⟩
  | cons decl rest ih =>
    rw [List.foldlM_cons]
    have first : Gives (fun more => ∃ field, more = fields ++ [field] ∧ decl.build = .ok field)
        (declareField fields decl) := by
      refine (gives_self decl.build).bind fun field built => ?_
      dsimp only
      split
      · exact gives_bind fun _ failed => nomatch failed
      · exact gives_pure.mpr ⟨field, rfl, built⟩
    refine first.bind fun more ⟨field, added, built⟩ => (ih more).imp fun all ⟨made, same, each⟩ => ?_
    exact ⟨field :: made, by rw [same, added, List.append_assoc]; rfl, .cons built each⟩

/-- The fields are what their declarations build, in order. -/
theorem declare_builds (id : Nat) (name : String) (decls : List FieldDecl) :
    Gives (fun schema : Schema Value => Forall₂ (fun decl field => decl.build = .ok field) decls schema.fields)
      (declare id name decls) := by
  refine (foldlM_builds decls []).bind fun fields ⟨made, same, each⟩ => gives_pure.mpr ?_
  rw [List.nil_append] at same
  exact same ▸ each

end Schema

end TableScript
