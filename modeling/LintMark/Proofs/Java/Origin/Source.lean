import LintMark.Proofs.Java.Origin.Statements
import LintMark.Java.Source

/-!
# Where the nodes of a tree come from

Every rule accounts for its outlines, so at each level an outline is made by the rule of a row or is
one of the outlines of a row one level below, and there is nothing at level zero. So a property of
outlines is proved of all that stems from a row by proving it for what one rule makes
(`Stems.holds`). Every outline of a shaped row is made by the rule of that row or of a row below it
(`Stems.exists_makes`).
-/

namespace LintMark.Java

open Cst Outline

namespace Construct

/-- A construct other than `generic` stands in the table. -/
theorem mem_table_of_ofType {type : String} {construct : Construct}
    (h : ofType type = construct) (hne : construct ≠ .generic) : (type, construct) ∈ table := by
  rw [ofType] at h
  cases hlookup : table.lookup type with
  | none =>
    rw [hlookup] at h
    exact absurd h.symm hne
  | some other =>
    rw [hlookup, Option.getD_some] at h
    subst h
    obtain ⟨l₁, l₂, htable, -⟩ := List.lookup_eq_some_iff.1 hlookup
    rw [htable]
    exact List.mem_append_right _ List.mem_cons_self

/-- A row of a construct with a rule of its own has one of the types that stand for the construct in
the table. -/
theorem type_mem_of_ofType {type : String} {construct : Construct} {types : List String}
    (h : ofType type = construct)
    (htable : construct ≠ .generic ∧ ∀ p ∈ table, p.2 = construct → p.1 ∈ types) : type ∈ types :=
  htable.2 _ (mem_table_of_ofType h htable.1) rfl

/-- The kind of a leaf. -/
def leafKind? : Construct → Option Kind
  | leaf kind => some kind
  | _ => none

theorem leaf_notMem_structural {type : String} {kind : Kind} (h : ofType type = leaf kind) :
    kind ∉ Kind.structural := by
  have htable : ∀ p ∈ table, ∀ kind ∈ p.2.leafKind?, kind ∉ Kind.structural := by decide
  exact htable _ (mem_table_of_ofType h nofun) kind rfl

/-- The kind of a type declaration. -/
def declaredKind? : Construct → Option Kind
  | typeDeclaration kind => some kind
  | _ => none

theorem typeDeclaration_mem {type : String} {kind : Kind}
    (h : ofType type = typeDeclaration kind) : kind ∈ Kind.typeDeclarations := by
  have htable : ∀ p ∈ table, ∀ kind ∈ p.2.declaredKind?, kind ∈ Kind.typeDeclarations := by decide
  exact htable _ (mem_table_of_ofType h nofun) kind rfl

end Construct

namespace Shaper

variable {s : Shaper} {row : Cst}

/-! ## One level -/

theorem accounts_convertRow : Accounts s row (s.convertRow row) := by
  have hrow : ∀ {construct}, Construct.ofType row.type = construct → construct.asksAll = true →
      Within row row := fun h hasks ↦ .self (by rwa [h])
  rw [convertRow]
  cases hconstruct : Construct.ofType row.type with
  | comment => exact .nil
  | leaf kind => exact .leaf (Construct.leaf_notMem_structural hconstruct) .self
  | integer => exact .number (by decide) (by decide) _
  | float => exact .number (by decide) (by decide) _
  | importDecl => exact .importDecl hconstruct
  | field => exact .field (by rw [hconstruct]; decide)
  | localVariable => exact .localVariable (by rw [hconstruct]; decide)
  | keywordStatement => exact .keywordStatement hconstruct
  | enhancedFor => exact .enhancedFor hconstruct
  | methodCall => exact .methodCall hconstruct
  | arrayAccess =>
    exact .arrayAccess fun c hc ↦ .of_mem_shapedBelow (by rwa [shapedBelow, hconstruct])
  | arrayType =>
    refine .arrayType fun c hc ↦ .of_mem_shapedBelow ?_
    rw [shapedBelow, hconstruct]
    exact List.mem_filterMap.2 ⟨"element", List.mem_singleton_self _, hc⟩
  | primitiveType => exact .primitiveType
  | generic => exact .generic hconstruct
  | program => exact .program (hrow hconstruct rfl)
  | package => exact .package (hrow hconstruct rfl)
  | typeDeclaration kind => exact .typeDeclaration (hrow hconstruct rfl) hconstruct
  | typeBody => exact .typeBody (hrow hconstruct rfl) hconstruct
  | modifiers => exact .modifiers (hrow hconstruct rfl)
  | method => exact .method (hrow hconstruct rfl) hconstruct
  | constructor => exact .constructor (hrow hconstruct rfl) hconstruct
  | parameters => exact .parameters (hrow hconstruct rfl)
  | block => exact .block (hrow hconstruct rfl) hconstruct
  | expressionStatement => exact .expressionStatement (hrow hconstruct rfl)
  | catchClause => exact .catchClause (hrow hconstruct rfl)
  | finallyClause => exact .finallyClause (hrow hconstruct rfl)
  | switchLabel => exact .switchLabel (hrow hconstruct rfl)
  | dissolved => exact .convertAll (hrow hconstruct rfl).asks
  | arguments => exact .arguments (hrow hconstruct rfl) true
  | objectCreation => exact .objectCreation (hrow hconstruct rfl)
  | arrayCreation => exact .arrayCreation (hrow hconstruct rfl)
  | arrayInitializer => exact .arrayInitializer (hrow hconstruct rfl)
  | binary => exact .binary (hrow hconstruct rfl)
  | assignment => exact .assignment (hrow hconstruct rfl)
  | unary => exact .unary (hrow hconstruct rfl)
  | update => exact .update (hrow hconstruct rfl)
  | parenthesized => exact .parenthesized (hrow hconstruct rfl) false
  | dotted => exact .withoutSigns (hrow hconstruct rfl) (by decide) "." ["."]
  | cast => exact .cast (hrow hconstruct rfl)
  | ternary => exact .withoutSigns (hrow hconstruct rfl) (by decide) "?" ["?"]
  | instanceOf => exact .instanceOf (hrow hconstruct rfl)
  | lambda => exact .withoutSigns (hrow hconstruct rfl) (by decide) "->" ["->"]
  | methodReference => exact .withoutSigns (hrow hconstruct rfl) (by decide) "::" ["::"]
  | constructorCall => exact .constructorCall (hrow hconstruct rfl)
  | scopedType => exact .scopedType (hrow hconstruct rfl)
  | genericType => exact .genericType (hrow hconstruct rfl)
  | annotatedType => exact .convertAll (hrow hconstruct rfl).asks

theorem accounts_typePartsOf : Accounts s row (s.typePartsOf row) := by
  rw [typePartsOf]
  split
  · next htype => exact .typeArguments (.self (by rw [htype]; rfl))
  · exact accounts_convertRow

/-! ## All levels -/

/-- A property of outlines holds of all that stems from a row if it holds of what a rule makes above
outlines with the property. Of the rows that are met at a level some fact `R` may be used: a row
that is asked has it one level below, or else its outlines are known to have the property. -/
theorem Stems.holds {source : SourceText} {R : Nat → Cst → Prop} {P : Outline → Prop}
    (hasks : ∀ {n : Nat} {row c : Cst}, R (n + 1) row → Asks row c → R n c ∨
      ∀ o, o ∈ (shaper source n).convertRow c ∨ o ∈ (shaper source n).typePartsOf c → P o)
    (hown : ∀ {n : Nat} {row : Cst} {o : Outline}, R n row → (shaper source n).Makes row o →
      (shaper source n).Placed row o → (∀ p ∈ o.children, P p) → P o)
    {n : Nat} {row : Cst} (hrow : R n row) {o : Outline} (h : (shaper source n).Stems row o) :
    P o := by
  induction n generalizing row o with
  | zero =>
    induction h with
    | own hmakes hplace _ ih => exact hown hrow hmakes hplace ih
    | asked _ ho => exact ho.elim (fun ho ↦ nomatch ho) fun ho ↦ nomatch ho
  | succ n ih =>
    induction h with
    | own hmakes hplace _ ih => exact hown hrow hmakes hplace ih
    | asked hc ho =>
      obtain hR | hP := hasks hrow hc
      · exact ih hR (ho.elim (accounts_convertRow _) (accounts_typePartsOf _))
      · exact hP _ ho

/-- What stems from a row that fits into the levels is made for the row or for a row below, and that
row fits into the levels that are left for it. -/
theorem Stems.exists_makes {source : SourceText} {n : Nat} {row : Cst} {o p : Outline}
    (h : (shaper source n).Stems row o) (hp : p ∈ o.subtrees) :
    ∃ m ≤ n, ∃ r ∈ row.rows, (fitsInto n row = true → fitsInto m r = true) ∧
      (shaper source m).Makes r p := by
  refine Stems.holds (R := fun m r ↦ m ≤ n ∧ r ∈ row.rows ∧
      (fitsInto n row = true → fitsInto m r = true))
    (P := fun o ↦ ∀ p ∈ o.subtrees, ∃ m ≤ n, ∃ r ∈ row.rows,
      (fitsInto n row = true → fitsInto m r = true) ∧ (shaper source m).Makes r p)
    ?_ ?_ ⟨Nat.le_refl n, row.mem_rows_self, id⟩ h p hp
  · rintro m r c ⟨hm, hr, hfits⟩ hc
    exact .inl ⟨Nat.le_of_succ_le hm, mem_rows_trans hr hc.near.mem_rows,
      fun hrow ↦ hc.fits (hfits hrow)⟩
  · rintro m r o ⟨hm, hr, hfits⟩ hmakes - hbelow p hp
    rw [subtrees_eq] at hp
    obtain rfl | hp := List.mem_cons.1 hp
    · exact ⟨m, hm, r, hr, hfits, hmakes⟩
    · rw [subtreesAll_eq_flatMap] at hp
      obtain ⟨q, hq, hp⟩ := List.mem_flatMap.1 hp
      exact hbelow q hq p hp

/-- Every outline in what a row is shaped to stands in something that stems from the row. -/
theorem exists_stems {source : SourceText} {n : Nat} {row : Cst} {o : Outline}
    (h : o ∈ subtreesAll ((shaper source n).convertRow row)) :
    ∃ p, (shaper source n).Stems row p ∧ o ∈ p.subtrees := by
  rw [subtreesAll_eq_flatMap] at h
  obtain ⟨p, hp, h⟩ := List.mem_flatMap.1 h
  exact ⟨p, accounts_convertRow p hp, h⟩

/-- Every outline in what a row is shaped to is made for the row or for a row below. -/
theorem exists_makes {source : SourceText} {n : Nat} {row : Cst} {o : Outline}
    (h : o ∈ subtreesAll ((shaper source n).convertRow row)) :
    ∃ m ≤ n, ∃ r ∈ row.rows, (shaper source m).Makes r o := by
  obtain ⟨p, hp, h⟩ := exists_stems h
  obtain ⟨m, hm, r, hr, -, hmakes⟩ := hp.exists_makes h
  exact ⟨m, hm, r, hr, hmakes⟩

/-! ## Lists of statements and members -/

/-- A list of statements or members is a block, the body of a type, or a row without a rule. -/
theorem Makes.of_mem_statementContainers {o : Outline} (h : s.Makes row o)
    (hkind : o.kind ∈ Kind.statementContainers) (hchildren : o.children ≠ []) :
    (Construct.ofType row.type = .block ∧ o = s.block row) ∨
    (Construct.ofType row.type = .typeBody ∧ o = s.typeBody row) ∨
    (Construct.ofType row.type = .generic ∧ row.children ≠ [] ∧
      o = s.node (kindOfType row.type) row "" (s.convertAll row.children)) := by
  cases h with
  | block hconstruct => exact .inl ⟨hconstruct, rfl⟩
  | typeBody hconstruct => exact .inr (.inl ⟨hconstruct, rfl⟩)
  | generic hconstruct =>
    refine .inr (.inr ⟨hconstruct, ?_⟩)
    rw [Shaper.generic] at hchildren ⊢
    split at hchildren
    · exact absurd rfl hchildren
    · next hne =>
      rw [if_neg hne]
      exact ⟨by rwa [List.isEmpty_iff] at hne, rfl⟩
  | other hother => exact absurd (List.mem_append_left _ (List.mem_append_left _
      (List.mem_append_left _ hkind))) hother
  | typeDeclaration kind hconstruct =>
    have hkinds : ∀ kind ∈ Kind.typeDeclarations, kind ∉ Kind.statementContainers := by decide
    exact absurd hkind (hkinds kind (Construct.typeDeclaration_mem hconstruct))
  | method => exact absurd hkind (by decide : Kind.methodDef ∉ Kind.statementContainers)
  | constructor => exact absurd hkind (by decide : Kind.ctorDef ∉ Kind.statementContainers)
  | variableDef | loopVariable =>
    exact absurd hkind (by decide : Kind.variableDef ∉ Kind.statementContainers)
  | parameter | catchParameter =>
    exact absurd hkind (by decide : Kind.parameterDef ∉ Kind.statementContainers)

/-- A name, a qualified one as well, and a row without a rule become one outline, or none at level
zero. -/
theorem length_convert_shaper_le {source : SourceText} (n : Nat)
    (h : Construct.ofType row.type ∈ [.leaf .ident, .dotted, .generic]) :
    ((shaper source n).convert row).length ≤ 1 := by
  cases n with
  | zero => exact Nat.zero_le 1
  | succ n =>
    change ((shaper source n).convertRow row).length ≤ 1
    rw [convertRow]
    simp only [List.mem_cons, List.not_mem_nil, or_false] at h
    obtain h | h | h := h
    · rw [h]
      exact Nat.le_refl 1
    · rw [h]
      exact Nat.le_refl 1
    · rw [h]
      exact Nat.le_refl 1

/-- What a shaper has for a row below was shaped one level below. -/
theorem exists_of_mem_convert_shaper {source : SourceText} {n : Nat} {o : Outline}
    (h : o ∈ (shaper source n).convert row) :
    ∃ m, o ∈ (shaper source m).convertRow row := by
  cases n with
  | zero => cases h
  | succ m => exact ⟨m, h⟩

end Shaper

end LintMark.Java
