import LintMark.Java.Shape.Types
import LintMark.Proofs.Java.Formatting
import LintMark.Proofs.Syntax.Agreement

/-!
# Shapers that agree up to places

Two shapers of two sources agree when rows that match give them the same outlines up to places. Each
rule keeps this: asked of shapers that agree, it gives for rows that match the same outlines up to
places. There is one lemma for each rule, here and in the other modules of
`LintMark.Proofs.Java.Formatting.*`; `LintMark.Proofs.Java.Formatting.Source` puts them together.

## The shape of the lemmas

A rule branches on the types, names and fields of rows, which are the same on both sides, so the two
runs take the same branches. What is left are the texts of the leaves: in each branch the type or
the field of the row is known, and `Cst.Matches` has the text for it.
-/

namespace LintMark

namespace Outline

/-! ## Forests up to places -/

@[simp] theorem unplacedAll_cons (o : Outline) (os : List Outline) :
    unplacedAll (o :: os) = o.unplaced :: unplacedAll os := by rw [unplacedAll]

@[simp] theorem unplacedAll_append (os ps : List Outline) :
    unplacedAll (os ++ ps) = unplacedAll os ++ unplacedAll ps := by
  rw [unplacedAll_eq_map, unplacedAll_eq_map, unplacedAll_eq_map, List.map_append]

variable {α β : Type} {R : α → β → Prop} {as : List α} {bs : List β}

/-- Forests collected over members that are related are the same up to places if those of each two
members are. -/
theorem unplacedAll_flatMap_eq {f : α → List Outline} {g : β → List Outline}
    (h : List.Forall₂ R as bs) (hfg : ∀ a b, R a b → unplacedAll (f a) = unplacedAll (g b)) :
    unplacedAll (as.flatMap f) = unplacedAll (bs.flatMap g) := by
  induction h with
  | nil => rfl
  | cons hab _ ih =>
    rw [List.flatMap_cons, List.flatMap_cons, unplacedAll_append, unplacedAll_append, hfg _ _ hab,
      ih]

theorem unplacedAll_map_eq {f : α → Outline} {g : β → Outline}
    (h : List.Forall₂ R as bs) (hfg : ∀ a b, R a b → (f a).unplaced = (g b).unplaced) :
    unplacedAll (as.map f) = unplacedAll (bs.map g) := by
  induction h with
  | nil => rfl
  | cons hab _ ih =>
    rw [List.map_cons, List.map_cons, unplacedAll_cons, unplacedAll_cons, hfg _ _ hab, ih]

end Outline

namespace Java.Shaper

open Cst hiding unplacedAll
open Outline (unplacedAll unplacedAll_append unplacedAll_cons unplacedAll_flatMap_eq
  unplacedAll_map_eq)

/-- Two shapers give the same outlines up to places for rows that match. -/
structure Agrees (s s' : Shaper) : Prop where
  convert : ∀ c c', Matches s.source s'.source c c' →
    unplacedAll (s.convert c) = unplacedAll (s'.convert c')
  typeParts : ∀ c c', Matches s.source s'.source c c' →
    unplacedAll (s.typeParts c) = unplacedAll (s'.typeParts c')

variable {s s' : Shaper} {c c' : Cst}

/-! ## Single outlines -/

/-- Nodes of one kind and one text are the same up to places if the forests below them are. -/
theorem node_eq (kind : Kind) (text : String) {os os' : List Outline}
    (h : unplacedAll os = unplacedAll os') :
    (s.node kind c text os).unplaced = (s'.node kind c' text os').unplaced := by
  rw [node, node, Outline.unplaced, Outline.unplaced, h]

/-- Forests collected over rows and their places among their siblings. -/
theorem flatMap_zipIdx_eq {f g : Cst × Nat → List Outline} {cs cs' : List Cst}
    (hcs : List.Forall₂ (Matches s.source s'.source) cs cs')
    (hfg : ∀ d d' i, Matches s.source s'.source d d' →
      unplacedAll (f (d, i)) = unplacedAll (g (d', i))) :
    unplacedAll (cs.zipIdx.flatMap f) = unplacedAll (cs'.zipIdx.flatMap g) := by
  refine unplacedAll_flatMap_eq (forall₂_zipIdx hcs 0) ?_
  rintro ⟨d, i⟩ ⟨d', -⟩ ⟨hd, rfl⟩
  exact hfg d d' i hd

theorem leaf_eq (kind : Kind) (h : c.text s.source = c'.text s'.source) :
    (s.leaf kind c).unplaced = (s'.leaf kind c').unplaced := by
  rw [leaf, leaf, text, text, h]
  exact node_eq kind _ rfl

/-- Lists of one outline. -/
theorem singleton_eq {o o' : Outline} (h : o.unplaced = o'.unplaced) :
    unplacedAll [o] = unplacedAll [o'] := by
  rw [unplacedAll_cons, unplacedAll_cons, h]

section Leaves

variable (kind : Kind) {type field : String} (hc : Matches s.source s'.source c c')

include hc

theorem leaf_eq_of_type (htype : c'.type = type) (hshows : typeShowsText type = true) :
    (s.leaf kind c).unplaced = (s'.leaf kind c').unplaced :=
  leaf_eq kind (hc.text_eq_of_type htype hshows)

/-- The leaves of the children of a type that shows its text. -/
theorem map_leaf_filter_type_eq (hshows : typeShowsText type = true) :
    unplacedAll ((c.children.filter fun d ↦ d.type = type).map (s.leaf kind))
      = unplacedAll ((c'.children.filter fun d ↦ d.type = type).map (s'.leaf kind)) :=
  unplacedAll_map_eq (hc.filter_type type) fun _ _ hd ↦
    leaf_eq kind (hd.1.text_eq_of_type hd.2 hshows)

/-- The leaf of the last child of a type that shows its text. -/
theorem map_leaf_getLast?_eq (hshows : typeShowsText type = true) :
    unplacedAll ((c.children.filter fun d ↦ d.type = type).getLast?.toList.map (s.leaf kind))
      = unplacedAll ((c'.children.filter fun d ↦ d.type = type).getLast?.toList.map
        (s'.leaf kind)) :=
  unplacedAll_map_eq (forall₂_toList (rel_getLast? (hc.filter_type type))) fun _ _ hd ↦
    leaf_eq kind (hd.1.text_eq_of_type hd.2 hshows)

/-- The leaf of the name. -/
theorem map_leaf_name_eq :
    unplacedAll ((c.field? "name").toList.map (s.leaf kind))
      = unplacedAll ((c'.field? "name").toList.map (s'.leaf kind)) :=
  unplacedAll_map_eq (forall₂_toList (hc.field? "name")) fun _ _ hd ↦
    leaf_eq kind (hd.1.text_eq_of_field hd.2 (.inl rfl))

/-- A number ends with the same letter. -/
theorem number_eq (short long : Kind) (letters : List Char)
    (hshows : typeShowsText c'.type = true) :
    (s.number short long letters c).unplaced = (s'.number short long letters c').unplaced := by
  have htext := hc.text_eq_of_type rfl hshows
  rw [number, number, text, text, htext]
  exact leaf_eq _ htext

end Leaves

namespace Agrees

variable (hs : s.Agrees s') (hc : Matches s.source s'.source c c')

include hs

/-! ## Outlines of rows below -/

theorem convertAll_eq {cs cs' : List Cst}
    (hcs : List.Forall₂ (Matches s.source s'.source) cs cs') :
    unplacedAll (s.convertAll cs) = unplacedAll (s'.convertAll cs') :=
  unplacedAll_flatMap_eq hcs hs.convert

include hc

theorem expr_eq : (s.expr c).unplaced = (s'.expr c').unplaced :=
  node_eq _ _ (hs.convert c c' hc)

theorem modifiers_eq : (s.modifiers c).unplaced = (s'.modifiers c').unplaced :=
  node_eq _ _ (hs.convertAll_eq hc.children)

theorem modifiersOf_eq : (s.modifiersOf c).unplaced = (s'.modifiersOf c').unplaced := by
  rw [modifiersOf, modifiersOf]
  obtain ⟨hnone, hnone'⟩ | ⟨d, d', hd, hd', hmatches⟩ := rel_cases (hc.find?_type "modifiers")
  · rw [hnone, hnone']
    exact node_eq _ _ rfl
  · rw [hd, hd']
    exact hs.modifiers_eq hmatches

/-! ## Rows without a rule of their own -/

theorem generic_eq (hcomment : c'.isComment = false) :
    (s.generic c).unplaced = (s'.generic c').unplaced := by
  have hempty := isEmpty_eq_of_forall₂ hc.children
  rw [generic, generic, hempty, hc.named_eq, hc.type_eq]
  split
  · next h =>
    have htext := hc.text_eq_of_isEmpty (hempty.trans h) (hc.isComment_eq.trans hcomment)
    rw [text, text, htext]
    exact leaf_eq _ htext
  · exact node_eq _ _ (hs.convertAll_eq hc.children)

/-! ## Dimensions -/

omit hs hc in
theorem wrapBrackets_eq {parts parts' : List Outline} {cs cs' : List Cst}
    (hparts : unplacedAll parts = unplacedAll parts')
    (hcs : List.Forall₂ (Matches s.source s'.source) cs cs') :
    unplacedAll (s.wrapBrackets parts cs) = unplacedAll (s'.wrapBrackets parts' cs') := by
  induction hcs generalizing parts parts' with
  | nil => exact hparts
  | @cons d d' _ _ hd _ ih =>
    refine ih ?_
    dsimp only
    rw [hd.type_eq]
    split
    · next htype =>
      refine singleton_eq (node_eq _ _ ?_)
      rw [unplacedAll_append, unplacedAll_append, hparts,
        singleton_eq (leaf_eq_of_type _ hd htype rfl)]
    · exact hparts

omit hs hc in
theorem wrapDimensions_eq {parts parts' : List Outline} {dimensions dimensions' : Option Cst}
    (hparts : unplacedAll parts = unplacedAll parts')
    (hdimensions : Option.Rel (Matches s.source s'.source) dimensions dimensions') :
    unplacedAll (s.wrapDimensions parts dimensions)
      = unplacedAll (s'.wrapDimensions parts' dimensions') := by
  cases hdimensions with
  | none => exact hparts
  | some hd => exact wrapBrackets_eq hparts hd.children

/-! ## Type references -/

theorem wildcard_eq : (s.wildcard c).unplaced = (s'.wildcard c').unplaced := by
  refine node_eq _ _ (unplacedAll_flatMap_eq hc.children fun d d' hd ↦ ?_)
  rw [hd.type_eq]
  split_ifs
  · rfl
  · exact singleton_eq (node_eq _ _ rfl)
  · exact hs.typeParts d d' hd

theorem typeArguments_eq : (s.typeArguments c).unplaced = (s'.typeArguments c').unplaced := by
  refine node_eq _ _ (unplacedAll_flatMap_eq hc.children fun d d' hd ↦ ?_)
  rw [hd.type_eq, hd.isComment_eq]
  split_ifs with hopening hclosing hcomma
  · exact singleton_eq (leaf_eq_of_type _ hd hopening rfl)
  · exact singleton_eq (leaf_eq_of_type _ hd hclosing rfl)
  · exact singleton_eq (leaf_eq_of_type _ hd hcomma rfl)
  · exact singleton_eq (node_eq _ _ (singleton_eq (hs.wildcard_eq hd)))
  · rfl
  · exact singleton_eq (node_eq _ _ (hs.typeParts d d' hd))

omit hs in
theorem primitiveType_eq (hshows : typeShowsText c'.type = true) :
    unplacedAll (s.primitiveType c) = unplacedAll (s'.primitiveType c') := by
  rw [primitiveType, primitiveType, text, text, hc.text_eq_of_type rfl hshows]
  exact singleton_eq (node_eq _ _ rfl)

theorem scopedType_eq : unplacedAll (s.scopedType c) = unplacedAll (s'.scopedType c') :=
  singleton_eq (node_eq _ _ (hs.convertAll_eq (hc.filter_type_ne ".")))

theorem genericType_eq : unplacedAll (s.genericType c) = unplacedAll (s'.genericType c') := by
  refine unplacedAll_flatMap_eq hc.children fun d d' hd ↦ ?_
  rw [hd.type_eq]
  split_ifs
  · exact singleton_eq (hs.typeArguments_eq hd)
  · exact hs.convert d d' hd

theorem arrayType_eq : unplacedAll (s.arrayType c) = unplacedAll (s'.arrayType c') := by
  refine wrapDimensions_eq ?_ (hc.field?_rel "dimensions")
  obtain ⟨hnone, hnone'⟩ | ⟨d, d', hd, hd', hmatches⟩ := rel_cases (hc.field?_rel "element")
  · rw [hnone, hnone']
  · rw [hd, hd']
    exact hs.typeParts d d' hmatches

theorem typeSpec_eq {dimensions dimensions' : Option Cst}
    (hdimensions : Option.Rel (Matches s.source s'.source) dimensions dimensions') :
    (s.typeSpec c dimensions).unplaced = (s'.typeSpec c' dimensions').unplaced :=
  node_eq _ _ (wrapDimensions_eq (hs.typeParts c c' hc) hdimensions)

end Agrees

end Java.Shaper

end LintMark
