import LintMark.Java.Source
import LintMark.Proofs.Java.Comments.Descent
import LintMark.Proofs.Java.Formatting.Statements

/-!
# Formatting and whole sources

The rules are put together here: shapers of two sources agree at every level, by induction on the
levels. What is decided before shaping, whether a tree nests too deep or has an increment without a
sign, is decided from rows that match, and so are faults. Reading a source therefore fails on both
sides alike, or gives forests that are the same up to places.
-/

namespace LintMark

namespace Java

open Cst hiding unplacedAll
open Outline (unplacedAll)

namespace Shaper.Agrees

variable {s s' : Shaper} {c c' : Cst} (hs : s.Agrees s') (hc : Matches s.source s'.source c c')

include hs hc

/-! ## Rows -/

/-- Rows that match give the same outlines up to places, by the lemma of their rule. -/
theorem convertRow_eq : unplacedAll (s.convertRow c) = unplacedAll (s'.convertRow c') := by
  have htype := hc.type_eq
  rw [convertRow, convertRow, htype]
  cases hconstruct : Construct.ofType c'.type with
  | comment => rfl
  | leaf kind => exact singleton_eq (leaf_eq_of_type _ hc rfl (by simp [typeShowsText, hconstruct]))
  | integer => exact singleton_eq (number_eq hc _ _ _ (by simp [typeShowsText, hconstruct]))
  | float => exact singleton_eq (number_eq hc _ _ _ (by simp [typeShowsText, hconstruct]))
  | program => exact singleton_eq (hs.program_eq hc)
  | package => exact singleton_eq (hs.package_eq hc)
  | importDecl => exact singleton_eq (hs.importDecl_eq hc)
  | typeDeclaration kind => exact singleton_eq (hs.typeDeclaration_eq hc kind)
  | typeBody => exact singleton_eq (hs.typeBody_eq hc)
  | modifiers => exact singleton_eq (hs.modifiers_eq hc)
  | field => exact hs.field_eq hc
  | localVariable => exact hs.localVariable_eq hc
  | method => exact singleton_eq (hs.method_eq hc)
  | constructor => exact singleton_eq (hs.constructor_eq hc)
  | parameters => exact hs.parameters_eq hc
  | block => exact singleton_eq (hs.block_eq hc)
  | expressionStatement => exact hs.expressionStatement_eq hc
  | keywordStatement => exact hs.keywordStatement_eq hc (htype ▸ hconstruct)
  | enhancedFor => exact singleton_eq (hs.enhancedFor_eq hc)
  | catchClause => exact singleton_eq (hs.catchClause_eq hc)
  | finallyClause => exact singleton_eq (hs.finallyClause_eq hc)
  | switchLabel => exact singleton_eq (hs.switchLabel_eq hc (htype ▸ hconstruct))
  | dissolved => exact hs.convertAll_eq hc.children
  | arguments => exact hs.arguments_eq hc true
  | methodCall => exact singleton_eq (hs.methodCall_eq hc)
  | objectCreation => exact singleton_eq (hs.objectCreation_eq hc)
  | arrayCreation => exact singleton_eq (hs.arrayCreation_eq hc)
  | arrayInitializer => exact singleton_eq (hs.arrayInitializer_eq hc)
  | binary => exact singleton_eq (hs.operation_eq hc _ _ _)
  | assignment => exact singleton_eq (hs.operation_eq hc _ _ _)
  | unary => exact singleton_eq (hs.unary_eq hc)
  | update => exact singleton_eq (hs.update_eq hc (htype ▸ hconstruct))
  | parenthesized => exact hs.parenthesized_eq hc false
  | dotted => exact singleton_eq (hs.withoutSigns_eq hc _ _ _)
  | arrayAccess => exact singleton_eq (hs.arrayAccess_eq hc)
  | cast => exact singleton_eq (hs.cast_eq hc)
  | ternary => exact singleton_eq (hs.withoutSigns_eq hc _ _ _)
  | instanceOf => exact singleton_eq (hs.instanceOf_eq hc)
  | lambda => exact singleton_eq (hs.withoutSigns_eq hc _ _ _)
  | methodReference => exact singleton_eq (hs.withoutSigns_eq hc _ _ _)
  | constructorCall => exact singleton_eq (hs.constructorCall_eq hc)
  | primitiveType => exact primitiveType_eq hc (by simp [typeShowsText, hconstruct])
  | scopedType => exact hs.scopedType_eq hc
  | genericType => exact hs.genericType_eq hc
  | arrayType => exact hs.arrayType_eq hc
  | annotatedType => exact hs.convertAll_eq hc.children
  | generic =>
    have hcomment : c'.isComment = false := by
      cases hcomment : c'.isComment with
      | false => rfl
      | true =>
        rw [Construct.ofType_of_isComment hcomment] at hconstruct
        cases hconstruct
    exact singleton_eq (hs.generic_eq hc hcomment)

theorem typePartsOf_eq : unplacedAll (s.typePartsOf c) = unplacedAll (s'.typePartsOf c') := by
  rw [typePartsOf, typePartsOf, hc.type_eq]
  split
  · exact singleton_eq (hs.typeArguments_eq hc)
  · exact hs.convertRow_eq hc

end Shaper.Agrees

/-! ## Levels -/

theorem source_shaper (source : SourceText) (n : Nat) : (shaper source n).source = source := by
  cases n with
  | zero => rfl
  | succ n => rfl

/-- The induction is on the levels; the step is one rule. -/
theorem agrees_shaper (source source' : SourceText) (n : Nat) :
    (shaper source n).Agrees (shaper source' n) := by
  induction n with
  | zero => exact ⟨fun _ _ _ ↦ rfl, fun _ _ _ ↦ rfl⟩
  | succ n ih =>
    have hbelow {c c' : Cst} (hc : Matches source source' c c') :
        Matches (shaper source n).source (shaper source' n).source c c' := by
      rwa [source_shaper, source_shaper]
    exact ⟨fun c c' hc ↦ ih.convertRow_eq (hbelow hc), fun c c' hc ↦ ih.typePartsOf_eq (hbelow hc)⟩

/-! ## Before shaping -/

section Descent

variable {source source' : SourceText} {c c' : Cst}

theorem modifierParts_matches (hc : Matches source source' c c') :
    List.Forall₂ (Matches source source') (modifierParts c) (modifierParts c') := by
  rw [modifierParts, modifierParts]
  obtain ⟨hnone, hnone'⟩ | ⟨d, d', hd, hd', hmatches⟩ := rel_cases (hc.find?_type "modifiers")
  · rw [hnone, hnone']
    exact .nil
  · rw [hd, hd']
    exact hmatches.children

theorem inFields_matches (hc : Matches source source' c c') (fields : List String) :
    List.Forall₂ (Matches source source') (inFields c fields) (inFields c' fields) := by
  have hfields : List.Forall₂ (· = ·) fields fields := List.forall₂_refl fields
  exact List.rel_filterMap (fun _ _ h ↦ h ▸ hc.field?_rel _) hfields

/-- Shaping goes down to rows that match one by one. -/
theorem shapedBelow_matches (hc : Matches source source' c c') :
    List.Forall₂ (Matches source source') (shapedBelow c) (shapedBelow c') := by
  rw [shapedBelow, shapedBelow, hc.type_eq]
  cases Construct.ofType c'.type with
  | comment | leaf | integer | float | primitiveType => exact .nil
  | importDecl =>
    exact (filter_matches hc.children fun _ _ hd ↦ by rw [hd.type_eq]).imp fun _ _ hd ↦ hd.1
  | field | localVariable =>
    refine List.rel_flatMap (hc.filter_type "variable_declarator") fun d d' hd ↦ ?_
    exact List.rel_append (List.rel_append (modifierParts_matches hc) (inFields_matches hc _))
      (inFields_matches hd.1 _)
  | methodCall =>
    exact List.rel_append (inFields_matches hc _)
      (List.rel_flatMap (inFields_matches hc _) fun _ _ hd ↦ hd.children)
  | arrayAccess | arrayType => exact inFields_matches hc _
  | enhancedFor => exact List.rel_append (modifierParts_matches hc) (inFields_matches hc _)
  | keywordStatement =>
    have hcontent := hc.content
    dsimp only
    generalize c.content = cs, c'.content = cs' at hcontent
    cases hcontent with
    | nil => exact .nil
    | cons _ hrest => exact hrest
  | _ => exact hc.children

theorem fitsInto_eq (n : Nat) (hc : Matches source source' c c') :
    fitsInto n c = fitsInto n c' := by
  induction n generalizing c c' with
  | zero => rfl
  | succ n ih =>
    rw [fitsInto, fitsInto]
    exact all_eq_of_matches (shapedBelow_matches hc) fun _ _ hd ↦ ih hd

theorem isBareUpdate_eq (hc : Matches source source' c c') :
    isBareUpdate c = isBareUpdate c' := by
  rw [isBareUpdate, isBareUpdate, hc.type_eq, isEmpty_eq_of_forall₂ hc.content]

theorem meetsBareUpdate_eq (n : Nat) (hc : Matches source source' c c') :
    meetsBareUpdate n c = meetsBareUpdate n c' := by
  induction n generalizing c c' with
  | zero => rfl
  | succ n ih =>
    rw [meetsBareUpdate, meetsBareUpdate, isBareUpdate_eq hc,
      any_eq_of_matches (shapedBelow_matches hc) fun _ _ hd ↦ ih hd]

/-- Concrete trees that match have the same outlines up to places, or none for the same reason. -/
theorem map_unplacedAll_outlines (hc : Matches source source' c c') :
    (outlines source c).map unplacedAll = (outlines source' c').map unplacedAll := by
  rw [outlines, outlines, fitsInto_eq _ hc, meetsBareUpdate_eq _ hc]
  split_ifs
  · rfl
  · rfl
  · refine congrArg Except.ok ((agrees_shaper source source' nestingLimit).convertRow_eq ?_)
    rwa [source_shaper, source_shaper]

end Descent

end Java

end LintMark
