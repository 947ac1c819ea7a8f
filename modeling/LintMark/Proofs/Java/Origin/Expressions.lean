import LintMark.Proofs.Java.Origin

/-!
# Where nodes of expressions come from

The rules of expressions make no declaration and no list of statements: every outline that they make
is of another kind, so all that matters is where they put it and which rows below they ask for.
-/

namespace LintMark.Java.Shaper

open Cst

/-- A table of kinds, none of which is to be met, gives a kind that is not. -/
theorem lookup_getD_notMem {kinds : List (String × Kind)} {avoided : List Kind} {other : Kind}
    (hkinds : ∀ p ∈ kinds, p.2 ∉ avoided) (hother : other ∉ avoided) (text : String) :
    (kinds.lookup text).getD other ∉ avoided := by
  cases hlookup : kinds.lookup text with
  | none => exact hother
  | some kind =>
    obtain ⟨_, _, rfl, -⟩ := List.lookup_eq_some_iff.1 hlookup
    exact hkinds (text, kind) (List.mem_append_right _ List.mem_cons_self)

namespace Accounts

variable {s : Shaper} {row c : Cst}

/-! ## Calls and objects -/

theorem arguments (hc : Within row c) (withOpening : Bool) :
    Accounts s row (s.arguments withOpening c) := by
  have hnear : ∀ d ∈ c.children, row.Near d := fun d hd ↦ (hc.asks d hd).near
  refine (mapLeaf (by decide) fun d hd ↦ hnear d (List.mem_filter.1 hd).1).append
    (cons (node (by decide) hc.near (flatMap fun d hd ↦ ?_) "") ?_)
  · split_ifs
    · exact nil
    · exact leaf (by decide) (hnear d hd)
    · exact nil
    · exact expr (hc.asks d hd)
  · rw [Option.toList_map]
    refine mapLeaf (by decide) fun d hd ↦ hnear d ?_
    exact (List.mem_filter.1 (List.mem_of_getLast? (Option.mem_toList.1 hd))).1

theorem methodCall (hconstruct : Construct.ofType row.type = .methodCall) :
    Accounts s row [s.methodCall row] := by
  have hasks : ∀ d ∈ inFields row ["object"] ++ (inFields row ["arguments"]).flatMap Cst.children,
      Asks row d := fun d hd ↦ .of_mem_shapedBelow (by rwa [shapedBelow, hconstruct])
  have hname : Accounts s row ((row.field? "name").toList.map (s.leaf .ident)) :=
    mapLeaf (by decide) fun d hd ↦ .of_field? (Option.mem_toList.1 hd)
  refine node (by decide) .self (append ?_ ?_) "("
  · split
    · next object hobject =>
      refine node (by decide) .self ((convert (hasks object ?_)).append hname) "."
      exact List.mem_append_left _
        (List.mem_filterMap.2 ⟨"object", List.mem_singleton_self _, hobject⟩)
    · exact hname
  · split
    · next c hc =>
      refine arguments ⟨.of_field? hc, fun d hd ↦ hasks d ?_⟩ false
      refine List.mem_append_right _ (List.mem_flatMap.2 ⟨c, ?_, hd⟩)
      exact List.mem_filterMap.2 ⟨"arguments", List.mem_singleton_self _, hc⟩
    · exact nil

variable (hrow : Within row row)

include hrow

theorem objectCreation : Accounts s row [s.objectCreation row] := by
  refine node (by decide) .self (flatMap ?_) "new"
  rintro ⟨c, i⟩ hp
  have hc := List.fst_mem_of_mem_zipIdx hp
  dsimp only
  split_ifs with _ _ htype
  · exact nil
  · exact typeParts (hrow.asks c hc)
  · exact arguments (hrow.child hc (by rw [htype]; decide)) true
  · exact convert (hrow.asks c hc)

theorem arrayCreation : Accounts s row [s.arrayCreation row] := by
  refine node (by decide) .self (flatMap fun c hc ↦ ?_) "new"
  split_ifs with _ hlengths hdimensions
  · exact nil
  · have hwithin : Within row c := hrow.child hc (by rw [hlengths]; decide)
    refine node (by decide) hwithin.near (append (map fun d hd ↦ ?_) (mapLeaf (by decide) ?_)) "["
    · exact expr (hwithin.asks d (List.mem_filter.1 hd).1)
    · exact fun d hd ↦ (hwithin.asks d (List.mem_filter.1 hd).1).near
  · have hwithin : Within row c := hrow.child hc (by rw [hdimensions]; decide)
    refine map fun d hd ↦ ?_
    have hd := (hwithin.asks d (List.mem_filter.1 hd).1).near
    exact node (by decide) hd (leaf (by decide) hd) "["
  · exact convert (hrow.asks c hc)

omit hrow

theorem arrayInitializer (hc : Within row c) : Accounts s row [s.arrayInitializer c] := by
  refine node (by decide) hc.near (flatMap fun d hd ↦ ?_) "\x7b"
  have hd := hc.asks d hd
  split_ifs
  · exact nil
  · exact leaf (by decide) hd.near
  · exact leaf (by decide) hd.near
  · exact convert hd
  · exact expr hd

/-! ## Operators -/

include hrow

theorem operands (place : Option Nat) : Accounts s row (s.operands row place) := by
  refine flatMap ?_
  rintro ⟨c, i⟩ hp
  dsimp only
  split_ifs
  · exact nil
  · exact convert (hrow.asks c (List.fst_mem_of_mem_zipIdx hp))

theorem operation {kinds : List (String × Kind)} {other : Kind}
    (hkinds : ∀ p ∈ kinds, p.2 ∉ Kind.structural) (hother : other ∉ Kind.structural)
    (unsigned : String) : Accounts s row [s.operation kinds unsigned other row] := by
  refine node (lookup_getD_notMem hkinds hother _) ?_ (operands hrow _) _
  cases hsign : (operatorPlace? row).bind fun i ↦ row.children[i]? with
  | none => exact .self
  | some c =>
    obtain ⟨i, -, hc⟩ := Option.bind_eq_some_iff.1 hsign
    exact .child (List.mem_of_getElem? hc)

theorem binary : Accounts s row [s.binary row] := operation hrow (by decide) (by decide) ""

theorem assignment : Accounts s row [s.assignment row] :=
  operation hrow (by decide) (by decide) "="

theorem unary : Accounts s row [s.unary row] :=
  node (lookup_getD_notMem (by decide) (by decide) _) .self (operands hrow _) _

theorem update : Accounts s row [s.update row] := by
  have hpart : ∀ {p : Cst × Nat → Bool}, ∀ q ∈ row.children.zipIdx.filter p, row.Near q.1 :=
    fun q hq ↦ .child (List.fst_mem_of_mem_zipIdx (List.mem_filter.1 hq).1)
  rw [Shaper.update]
  dsimp only
  split
  · next first i last j hfirst hlast =>
    refine node ?_ ?_ (operands hrow _) _
    · split_ifs
      · decide
      · decide
      · decide
      · decide
    · split
      · exact hpart _ (List.mem_of_getLast? hlast)
      · exact hpart _ (List.mem_of_head? hfirst)
  · exact node (by decide) .self nil ""

/-! ## Other expressions -/

omit hrow

theorem parenthesized (hc : Within row c) (wrap : Bool) :
    Accounts s row (s.parenthesized wrap c) := by
  refine flatMap fun d hd ↦ ?_
  have hd := hc.asks d hd
  split_ifs
  · exact leaf (by decide) hd.near
  · exact leaf (by decide) hd.near
  · exact nil
  · exact expr hd
  · exact convert hd

include hrow

theorem withoutSigns {kind : Kind} (hkind : kind ∉ Kind.structural) (text : String)
    (signs : List String) : Accounts s row [s.withoutSigns kind text signs row] := by
  refine node hkind .self (convertAll fun c hc ↦ hrow.asks c ?_) text
  exact mem_children_of_mem_content (List.mem_filter.1 hc).1

omit hrow

theorem arrayAccess (hfields : ∀ c ∈ inFields row ["array", "index"], Asks row c) :
    Accounts s row [s.arrayAccess row] := by
  have hfield : ∀ field ∈ ["array", "index"], ∀ c ∈ row.field? field, Asks row c :=
    fun field hfield c hc ↦ hfields c (List.mem_filterMap.2 ⟨field, hfield, hc⟩)
  refine node (by decide) .self
    (append (append ?_ (map fun c hc ↦ ?_)) (mapLeaf (by decide) fun c hc ↦ ?_)) "["
  · split
    · next c hc => exact convert (hfield "array" (by decide) c hc)
    · exact nil
  · exact expr (hfield "index" (by decide) c (Option.mem_toList.1 hc))
  · exact .child (List.mem_filter.1 hc).1

include hrow

theorem cast : Accounts s row [s.cast row] := by
  refine node (by decide) .self (flatMap ?_) "("
  rintro ⟨c, i⟩ hp
  have hc := hrow.asks c (List.fst_mem_of_mem_zipIdx hp)
  dsimp only
  split_ifs
  · exact nil
  · exact leaf (by decide) hc.near
  · exact convert hc
  · exact typeSpec hc nofun
  · exact convert hc

theorem instanceOf : Accounts s row [s.instanceOf row] := by
  refine node (by decide) .self (flatMap ?_) "instanceof"
  rintro ⟨c, i⟩ hp
  have hc := hrow.asks c (List.fst_mem_of_mem_zipIdx hp)
  dsimp only
  split_ifs
  · exact nil
  · exact typeSpec hc nofun
  · exact convert hc

end Accounts

end LintMark.Java.Shaper
