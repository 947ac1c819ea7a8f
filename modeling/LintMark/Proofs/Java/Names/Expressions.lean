import LintMark.Proofs.Java.Comments.Expressions
import LintMark.Proofs.Java.Names

/-!
# Names in expressions

The rules of expressions skip signs and keep the rest, apart from the rule of a call, which reads
the fields that it needs and no others, and the rule of an array creation, which counts the
dimensions without a length.
-/

namespace LintMark.Java.Shaper.Keeps

open Cst

variable {s : Shaper} {row c d e : Cst} (h : s.Keeps row d)

include h

/-! ## Calls and objects -/

theorem arguments (hc : Within row c) (he : e ∈ c.children) (hexposes : e.Exposes d)
    (withOpening : Bool) : s.Shows d (s.arguments withOpening c) := by
  have hasks := hc.asks e he
  refine .right (.head (.node (.flatMap he ?_)))
  split_ifs with hparenthesis hcomma hcomment
  · exact absurd hparenthesis (h.not_skipped hasks.near hexposes (by decide))
  · exact absurd hcomma (h.type_ne hasks.near hexposes (by decide))
  · exact absurd hcomment (h.not_comment hasks.near hexposes)
  · exact h.expr hasks hexposes

/-- An argument list that is handed on keeps its names. -/
theorem arguments_of_exposes (hc : Within row c) (htype : c.type = "argument_list")
    (he : c.Exposes d) (withOpening : Bool) : s.Shows d (s.arguments withOpening c) := by
  obtain ⟨e, hmem, -, hexposes⟩ := h.exists_child he (by rw [htype]; decide)
  exact h.arguments hc hmem hexposes withOpening

/-- A call keeps what stands in its object, in its name and in its arguments. -/
theorem methodCall (htype : row.type = "method_invocation") (hc : c ∈ row.children)
    (hlost : row.loses c = false) (he : c.Exposes d) : s.Shows d [s.methodCall row] := by
  have hregular := h.regular row row.mem_rows_self
  have hasks : ∀ e ∈ inFields row ["object"] ++ (inFields row ["arguments"]).flatMap Cst.children,
      Asks row e := fun e he ↦ .of_mem_shapedBelow (by rw [shapedBelow, htype]; exact he)
  obtain ⟨field, hfield, hc⟩ := h.exists_selected (p := .methodCall) (by decide) rfl .self
    (by rw [htype]; decide) hc hlost he
  simp only [Selection.methodCall, List.mem_cons, List.not_mem_nil, or_false] at hfield
  refine .node ?_
  obtain rfl | rfl | rfl := hfield
  · refine .left ?_
    rw [hc]
    refine .node (.left (h.convert (hasks c (List.mem_append_left _ ?_)) he))
    exact List.mem_filterMap.2 ⟨"object", List.mem_singleton_self _, hc⟩
  · have hname : s.Shows d ((row.field? "name").toList.map (s.leaf .ident)) := by
      rw [hc]
      exact .of_isAtomic he (hregular.name (by rw [htype]; decide) c hc)
    refine .left ?_
    split
    · exact .node (.right hname)
    · exact hname
  · refine .right ?_
    rw [hc]
    refine h.arguments_of_exposes ⟨.of_field? hc, fun e he ↦ hasks e ?_⟩
      (hregular.arguments htype c hc) he false
    refine List.mem_append_right _ (List.mem_flatMap.2 ⟨c, ?_, he⟩)
    exact List.mem_filterMap.2 ⟨"arguments", List.mem_singleton_self _, hc⟩

section

variable (hrow : Within row row) (hc : c ∈ row.children) (he : c.Exposes d)

include hrow hc he

theorem objectCreation : s.Shows d [s.objectCreation row] := by
  have hasks := hrow.asks c hc
  obtain ⟨i, hi⟩ := exists_mem_zipIdx hc
  refine .node (.flatMap hi ?_)
  dsimp only
  split_ifs with hskipped htype harguments
  · exact absurd hskipped (h.not_skipped_or_comment hasks.near he (by decide))
  · exact h.typeParts hasks he
  · exact h.arguments_of_exposes (hrow.child hc (by rw [harguments]; decide)) harguments he true
  · exact h.convert hasks he

/-- An array creation keeps what stands in front of its dimensions and in their lengths. -/
theorem arrayCreation (hlost : row.loses c = false)
    (hrowType : row.type = "array_creation_expression") : s.Shows d [s.arrayCreation row] := by
  have hasks := hrow.asks c hc
  refine .node (.flatMap hc ?_)
  split_ifs with hskipped hlengths hdimensions
  · exact absurd hskipped (h.not_type_or_comment hasks.near he (by decide))
  · have hwithin : Within row c := hrow.child hc (by rw [hlengths]; decide)
    obtain ⟨e, hmem, -, hexposes⟩ := h.exists_child he (by rw [hlengths]; decide)
    have hasks := hwithin.asks e hmem
    refine .node (.left (.map (List.mem_filter.2 ⟨hmem, ?_⟩) (h.expr hasks hexposes)))
    rw [h.named hasks.near hexposes, Bool.eq_false_iff.2 (h.not_comment hasks.near hexposes)]
    rfl
  · rw [loses, hrowType, hdimensions] at hlost
    cases hlost
  · exact h.convert hasks he

end

theorem arrayInitializer (hc : Within row c) (he : e ∈ c.children) (hexposes : e.Exposes d) :
    s.Shows d [s.arrayInitializer c] := by
  have hasks := hc.asks e he
  refine .node (.flatMap he ?_)
  split_ifs with hskipped hclosing hcomma hnested
  · exact absurd hskipped (h.not_type_or_comment hasks.near hexposes (by decide))
  · exact absurd hclosing (h.type_ne hasks.near hexposes (by decide))
  · exact absurd hcomma (h.type_ne hasks.near hexposes (by decide))
  · exact h.convert hasks hexposes
  · exact h.expr hasks hexposes

/-! ## Operators -/

theorem parenthesized (hc : Within row c) (he : e ∈ c.children) (hexposes : e.Exposes d)
    (wrap : Bool) : s.Shows d (s.parenthesized wrap c) := by
  have hasks := hc.asks e he
  refine .flatMap he ?_
  split_ifs with hopening hclosing hcomment hwrap
  · exact absurd hopening (h.type_ne hasks.near hexposes (by decide))
  · exact absurd hclosing (h.type_ne hasks.near hexposes (by decide))
  · exact absurd hcomment (h.not_comment hasks.near hexposes)
  · exact h.expr hasks hexposes
  · exact h.convert hasks hexposes

variable (hrow : Within row row) (hc : c ∈ row.children) (he : c.Exposes d)

include hrow hc he

/-- The operands keep their names if the row that is left out has none. -/
theorem operands {place : Option Nat}
    (hplace : ∀ i ∈ place, ∀ e ∈ row.children[i]?, e.isMute = true) :
    s.Shows d (s.operands row place) := by
  obtain ⟨i, hi⟩ := List.mem_iff_getElem?.1 hc
  refine .flatMap (List.mem_zipIdx_iff_getElem?.2 hi : (c, i) ∈ row.children.zipIdx) ?_
  dsimp only
  split_ifs with hsign
  · have hmute := hplace i hsign c hi
    rw [h.isMute_eq_false he] at hmute
    cases hmute
  · exact h.convert (hrow.asks c hc) he

omit hrow hc he in
/-- The sign of an operation is no name. -/
theorem isMute_of_operatorPlace? {i : Nat} (hi : i ∈ operatorPlace? row)
    (he : e ∈ row.children[i]?) : e.isMute = true := by
  have hregular := h.regular row row.mem_rows_self
  have hfind : row.children.find? (isOperator row) = some e := by
    rw [← operator?_eq_find?, Option.mem_def.1 hi, Option.bind_some, Option.mem_def.1 he]
  by_cases hplace : (row.fieldPlace? "operator").isSome = true
  · have htest : isOperator row = fun c ↦ decide (c.field = some "operator") := by
      funext c
      rw [isOperator, if_pos hplace]
    rw [htest] at hfind
    exact hregular.operator e hfind
  · have hnamed := List.find?_some hfind
    rw [isOperator, if_neg hplace, Bool.not_eq_true'] at hnamed
    have hmem := mem_rows_of_mem (List.mem_of_find?_eq_some hfind)
    exact (h.regular e hmem).sign (.inl hnamed)

theorem operation {kinds : List (String × Kind)} {unsigned : String} {other : Kind} :
    s.Shows d [s.operation kinds unsigned other row] :=
  .node (h.operands hrow hc he fun _ hi _ he ↦ h.isMute_of_operatorPlace? hi he)

theorem unary : s.Shows d [s.unary row] :=
  .node (h.operands hrow hc he fun _ hi _ he ↦ h.isMute_of_operatorPlace? hi he)

/-- The sign of an increment is its first part or its last one, and that is no name. -/
theorem update (hconstruct : Construct.ofType row.type = .update) : s.Shows d [s.update row] := by
  have hregular := h.regular row row.mem_rows_self
  have hparts : ∀ x ∈ parts row, row.children[x.2]? = some x.1 := fun x hx ↦
    List.mem_zipIdx_iff_getElem?.1 (List.mem_filter.1 hx).1
  have hne : parts row ≠ [] := by
    intro hnil
    have hcontent := h.mem_content (hrow.asks c hc).near hc he
    rw [← map_fst_parts, hnil] at hcontent
    cases hcontent
  obtain ⟨first, hfirst⟩ : ∃ x, (parts row).head? = some x :=
    ⟨_, List.head?_eq_some_head hne⟩
  obtain ⟨last, hlast⟩ : ∃ x, (parts row).getLast? = some x :=
    ⟨_, List.getLast?_eq_some_getLast hne⟩
  have hfirstPart := hparts first (List.mem_of_head? hfirst)
  have hlastPart := hparts last (List.mem_of_getLast? hlast)
  rw [Shaper.update, ← parts, hfirst, hlast]
  dsimp only
  refine .node (h.operands hrow hc he fun i hi e he ↦ ?_)
  by_cases hnamed : first.1.named = true
  · rw [if_pos hnamed] at hi
    obtain rfl := Option.some_inj.1 hi
    rw [Option.mem_def, hlastPart, Option.some_inj] at he
    rw [← he]
    refine hregular.update hconstruct first.1 ?_ hnamed last.1 ?_
    · rw [← map_fst_parts, List.head?_map, hfirst]
      rfl
    · rw [← map_fst_parts, List.getLast?_map, hlast]
      rfl
  · rw [if_neg hnamed] at hi
    obtain rfl := Option.some_inj.1 hi
    rw [Option.mem_def, hfirstPart, Option.some_inj] at he
    rw [← he]
    exact (h.regular first.1 (mem_rows_of_mem (List.mem_of_getElem? hfirstPart))).sign
      (.inl (Bool.eq_false_iff.2 hnamed))

/-! ## Other expressions -/

theorem withoutSigns {kind : Kind} {text : String} {signs : List String}
    (hsigns : signs ⊆ skippedTypes) : s.Shows d [s.withoutSigns kind text signs row] := by
  have hasks := hrow.asks c hc
  refine .node (.convertAll (List.mem_filter.2 ⟨h.mem_content hasks.near hc he, ?_⟩)
    (h.convert hasks he))
  exact decide_eq_true (h.not_skipped hasks.near he hsigns)

theorem cast : s.Shows d [s.cast row] := by
  have hasks := hrow.asks c hc
  obtain ⟨i, hi⟩ := exists_mem_zipIdx hc
  refine .node (.flatMap hi ?_)
  dsimp only
  split_ifs with hskipped hclosing hvalue htype
  · exact absurd hskipped (h.not_type_or_comment hasks.near he (by decide))
  · exact absurd hclosing (h.type_ne hasks.near he (by decide))
  · exact h.convert hasks he
  · exact .typeSpec (h.typeParts hasks he) none
  · exact h.convert hasks he

theorem instanceOf : s.Shows d [s.instanceOf row] := by
  have hasks := hrow.asks c hc
  obtain ⟨i, hi⟩ := exists_mem_zipIdx hc
  refine .node (.flatMap hi ?_)
  dsimp only
  split_ifs with hskipped htype
  · exact absurd hskipped (h.not_type_or_comment hasks.near he (by decide))
  · exact .typeSpec (h.typeParts hasks he) none
  · exact h.convert hasks he

omit hrow in
/-- The access to an array keeps what stands in the array and in the index. -/
theorem arrayAccess (htype : row.type = "array_access") (hlost : row.loses c = false) :
    s.Shows d [s.arrayAccess row] := by
  have hasks : ∀ {field : String}, field ∈ ["array", "index"] → row.field? field = some c →
      Asks row c := by
    intro field hfield hc
    refine .of_mem_shapedBelow ?_
    rw [shapedBelow, htype]
    exact List.mem_filterMap.2 ⟨field, hfield, hc⟩
  obtain ⟨field, hfield, hc⟩ := h.exists_selected (p := .arrayAccess) (by decide) rfl .self
    (by rw [htype]; decide) hc hlost he
  have hasks := hasks hfield hc
  simp only [Selection.arrayAccess, List.mem_cons, List.not_mem_nil, or_false] at hfield
  refine .node (.left ?_)
  obtain rfl | rfl := hfield
  · refine .left ?_
    rw [hc]
    exact h.convert hasks he
  · refine .right ?_
    rw [hc]
    exact h.expr hasks he

end LintMark.Java.Shaper.Keeps
