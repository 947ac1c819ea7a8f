import LintMark.Java.Shape.Declarations
import LintMark.Proofs.Java.Formatting.Expressions

/-!
# Formatting and declarations

The rules for declarations keep agreement. The name of an import is folded over its parts, and the
terminators of a declaration are found by their number; both are therefore compared as a whole, up
to places.
-/

namespace LintMark.Java.Shaper

open Cst hiding unplacedAll
open Outline (unplacedAll unplacedAll_append unplacedAll_cons unplacedAll_eq_map
  unplacedAll_flatMap_eq unplacedAll_map_eq)

variable {s s' : Shaper} {c c' : Cst}

section Parts

variable (hc : Matches s.source s'.source c c')

include hc

theorem declarators_matches :
    List.Forall₂ (Matches s.source s'.source) (declarators c) (declarators c') :=
  (hc.filter_type "variable_declarator").imp fun _ _ hd ↦ hd.1

/-- The separators of a declaration are the same up to places, one by one. -/
theorem separators_rel :
    List.Forall₂ (fun o o' ↦ o.unplaced = o'.unplaced) (s.separators c) (s'.separators c') := by
  refine List.rel_filterMap (fun d d' hd ↦ ?_) hc.children
  rw [hd.type_eq]
  split_ifs with hcomma hsemi
  · exact .some (leaf_eq_of_type _ hd hcomma rfl)
  · exact .some (leaf_eq_of_type _ hd hsemi rfl)
  · exact .none

end Parts

/-- Optional outlines that are the same up to places. -/
theorem toList_eq {o o' : Option Outline}
    (h : Option.Rel (fun o o' ↦ o.unplaced = o'.unplaced) o o') :
    unplacedAll o.toList = unplacedAll o'.toList := by
  cases h with
  | none => rfl
  | some h => exact singleton_eq h

namespace Agrees

variable (hs : s.Agrees s') (hc : Matches s.source s'.source c c')

include hs hc

/-! ## Files -/

theorem program_eq : (s.program c).unplaced = (s'.program c').unplaced := by
  rw [program, program, Outline.unplaced, Outline.unplaced, hs.convertAll_eq hc.children]

theorem package_eq : (s.package c).unplaced = (s'.package c').unplaced :=
  node_eq _ _ (hs.convertAll_eq (hc.filter_type_ne "package"))

theorem head?_convert_rel :
    Option.Rel (fun o o' ↦ o.unplaced = o'.unplaced) (s.convert c).head? (s'.convert c').head? := by
  have hconvert := hs.convert c c' hc
  rw [unplacedAll_eq_map, unplacedAll_eq_map, ← List.forall₂_eq_eq_eq, List.forall₂_map_left_iff,
    List.forall₂_map_right_iff] at hconvert
  exact rel_head? hconvert

theorem importName_rel {name name' : Option Outline}
    (hname : Option.Rel (fun o o' ↦ o.unplaced = o'.unplaced) name name') :
    Option.Rel (fun o o' ↦ o.unplaced = o'.unplaced) (s.importName name c)
      (s'.importName name' c') := by
  rw [importName, importName, hc.type_eq]
  split_ifs with hidentifier hasterisk
  · exact hs.head?_convert_rel hc
  · refine .some (node_eq _ _ ?_)
    rw [unplacedAll_append, unplacedAll_append, toList_eq hname,
      singleton_eq (leaf_eq_of_type _ hc hasterisk rfl)]
  · exact hname

theorem importDecl_eq : (s.importDecl c).unplaced = (s'.importDecl c').unplaced := by
  have hname := List.rel_foldl (R := Matches s.source s'.source)
    (fun _ _ hname _ _ hd ↦ hs.importName_rel hd hname) Option.Rel.none (hc.filter_type_ne "static")
  rw [importDecl, importDecl, hc.any_type_eq]
  refine node_eq _ _ ?_
  rw [unplacedAll_append, unplacedAll_append, map_leaf_filter_type_eq _ hc rfl, toList_eq hname]

/-! ## Types -/

theorem clause_eq (kind : Kind) (keyword : String) :
    (s.clause kind keyword c).unplaced = (s'.clause kind keyword c').unplaced := by
  refine node_eq _ _ (unplacedAll_flatMap_eq hc.children fun d d' hd ↦ ?_)
  rw [hd.type_eq]
  split_ifs
  · rfl
  · exact hs.convertAll_eq hd.children
  · exact hs.convert d d' hd

/-- Declarations start with their modifiers. -/
theorem cons_modifiersOf_eq {os os' : List Outline} (h : unplacedAll os = unplacedAll os') :
    unplacedAll (s.modifiersOf c :: os) = unplacedAll (s'.modifiersOf c' :: os') := by
  rw [unplacedAll_cons, unplacedAll_cons, hs.modifiersOf_eq hc, h]

theorem typeDeclaration_eq (kind : Kind) :
    (s.typeDeclaration kind c).unplaced = (s'.typeDeclaration kind c').unplaced := by
  refine node_eq _ _ (hs.cons_modifiersOf_eq hc ?_)
  refine unplacedAll_flatMap_eq hc.content fun d d' hd ↦ ?_
  rw [hd.type_eq]
  split_ifs
  · rfl
  · exact singleton_eq (hs.clause_eq hd _ _)
  · exact singleton_eq (hs.clause_eq hd _ _)
  · exact hs.convert d d' hd

theorem typeBody_eq : (s.typeBody c).unplaced = (s'.typeBody c').unplaced :=
  node_eq _ _ (hs.convertAll_eq hc.children)

/-! ## Variables -/

omit hc in
theorem initializer_eq {value value' : Cst} (hvalue : Matches s.source s'.source value value') :
    (s.initializer c value).unplaced = (s'.initializer c' value').unplaced := by
  refine node_eq _ _ (singleton_eq ?_)
  rw [hvalue.type_eq]
  split_ifs
  · exact hs.arrayInitializer_eq hvalue
  · exact hs.expr_eq hvalue

theorem variableDef_eq {d d' : Cst} (hd : Matches s.source s'.source d d')
    {terminator terminator' : Option Outline}
    (hterminator : Option.Rel (fun o o' ↦ o.unplaced = o'.unplaced) terminator terminator') :
    (s.variableDef c d terminator).unplaced = (s'.variableDef c' d' terminator').unplaced := by
  refine node_eq _ _ ?_
  rw [List.cons_append, List.cons_append, List.cons_append, List.cons_append, List.cons_append,
    List.cons_append]
  refine hs.cons_modifiersOf_eq hc ?_
  rw [unplacedAll_append, unplacedAll_append, unplacedAll_append, unplacedAll_append,
    unplacedAll_append, unplacedAll_append, toList_eq hterminator, map_leaf_name_eq _ hd,
    unplacedAll_map_eq (forall₂_toList (hc.field?_rel "type"))
      fun e e' he ↦ hs.typeSpec_eq he (hd.field?_rel "dimensions"),
    unplacedAll_map_eq (forall₂_toList (hd.field?_rel "value")) fun e e' he ↦ hs.initializer_eq he]

theorem field_eq : unplacedAll (s.field c) = unplacedAll (s'.field c') := by
  refine unplacedAll_map_eq (forall₂_zipIdx (declarators_matches hc) 0) ?_
  rintro ⟨d, i⟩ ⟨d', -⟩ ⟨hd, rfl⟩
  exact hs.variableDef_eq hc hd (rel_getElem? (separators_rel hc) i)

theorem localVariable_eq : unplacedAll (s.localVariable c) = unplacedAll (s'.localVariable c') := by
  refine flatMap_zipIdx_eq (declarators_matches hc) fun d d' i hd ↦ ?_
  dsimp only
  rw [unplacedAll_cons, unplacedAll_cons, hs.variableDef_eq hc hd .none,
    toList_eq (rel_getElem? (separators_rel hc) i)]

/-! ## Methods -/

theorem throwsClause_eq : (s.throwsClause c).unplaced = (s'.throwsClause c').unplaced :=
  node_eq _ _ (hs.convertAll_eq (hc.filter_type_ne "throws"))

theorem method_eq : (s.method c).unplaced = (s'.method c').unplaced := by
  refine node_eq _ _ (hs.cons_modifiersOf_eq hc ?_)
  refine flatMap_zipIdx_eq hc.children fun d d' i hd ↦ ?_
  dsimp only
  rw [hd.type_eq, hd.isComment_eq, hc.fieldPlace?_eq]
  split_ifs with hmodifiers htype hidentifier
  · rfl
  · exact singleton_eq (hs.typeSpec_eq hd .none)
  · exact singleton_eq (leaf_eq_of_type _ hd hidentifier rfl)
  · exact singleton_eq (hs.throwsClause_eq hd)
  · rfl
  · exact hs.convert d d' hd

theorem constructor_eq : (s.constructor c).unplaced = (s'.constructor c').unplaced := by
  refine node_eq _ _ (hs.cons_modifiersOf_eq hc ?_)
  refine unplacedAll_flatMap_eq hc.content fun d d' hd ↦ ?_
  rw [hd.type_eq]
  split_ifs
  · rfl
  · exact singleton_eq (hs.throwsClause_eq hd)
  · exact hs.convert d d' hd

theorem parameter_eq : (s.parameter c).unplaced = (s'.parameter c').unplaced := by
  refine node_eq _ _ (hs.cons_modifiersOf_eq hc ?_)
  refine flatMap_zipIdx_eq hc.children fun d d' i hd ↦ ?_
  dsimp only
  rw [hd.type_eq, hd.isComment_eq, hc.fieldPlace?_eq]
  split_ifs with hmodifiers htype hidentifier
  · rfl
  · exact singleton_eq (hs.typeSpec_eq hd (hc.field?_rel "dimensions"))
  · exact singleton_eq (leaf_eq_of_type _ hd hidentifier rfl)
  · exact map_leaf_name_eq _ hd
  · rfl
  · exact hs.convert d d' hd

theorem parameters_eq : unplacedAll (s.parameters c) = unplacedAll (s'.parameters c') := by
  rw [parameters, parameters, unplacedAll_append, unplacedAll_append, unplacedAll_cons,
    unplacedAll_cons, map_leaf_getLast?_eq _ hc rfl, map_leaf_getLast?_eq _ hc rfl]
  congr 2
  refine node_eq _ _ (unplacedAll_flatMap_eq hc.children fun d d' hd ↦ ?_)
  rw [hd.type_eq]
  split_ifs
  · rfl
  · exact singleton_eq (hs.parameter_eq hd)
  · exact hs.convert d d' hd

end Agrees

end LintMark.Java.Shaper
