import LintMark.Proofs.Java.Fields
import LintMark.Proofs.Window.Neighbours

/-!
# The fields of the enclosing type

The windows of fields look for the innermost type declaration around a warning, for the node of its
body, and for the definitions of variables right below that node. In what the grammar reads the
declaration found is that of a row (`Reading.exists_isDeclarationOf`), and the definitions below its
body are those of its field declarations, one for each declarator and in their order
(`Reading.fieldsWindow_of_enclosing`): variables of methods, parameters, and the fields of types
inside stand further down, and nothing else in the body is a definition.
-/

namespace LintMark

open Java Outline Cst

namespace Tree

variable {t : Tree} {i : Nat} {kind : Kind}

/-! ## Children by their outlines -/

theorem map_outline_findChild (t : Tree) (i : Nat) (kind : Kind) :
    (t.findChild i kind).map t.outline = (t.outline i).children.find? fun o ↦ o.kind = kind := by
  rw [findChild, children_outline, List.find?_map]
  rfl

/-- A declaration that starts with its modifiers is static if they have a leaf of that kind. -/
theorem isStatic_eq_any {modifiers : Outline} {rest : List Outline}
    (hchildren : (t.outline i).children = modifiers :: rest) (hkind : modifiers.kind = .modifiers) :
    t.isStatic i = modifiers.children.any fun o ↦ o.kind = .literalStatic := by
  have hfind := t.map_outline_findChild i .modifiers
  have hfirst : ((modifiers :: rest).find? fun o ↦ o.kind = .modifiers) = some modifiers :=
    List.find?_cons_of_pos (decide_eq_true hkind)
  rw [hchildren, hfirst] at hfind
  obtain ⟨m, hm, rfl⟩ := Option.map_eq_some_iff.1 hfind
  rw [isStatic, hm]
  dsimp only
  rw [← Option.isSome_map, map_outline_findChild, List.isSome_find?]

/-- Node `i` is that of a type declaration, which fits into the levels at which it was shaped. -/
def IsDeclarationOf (t : Tree) (source : SourceText) (row : Cst) (i : Nat) : Prop :=
  ∃ kind n, Construct.ofType row.type = .typeDeclaration kind ∧ fitsInto n row = true ∧
    t.outline i = (shaper source n).typeDeclaration kind row

end Tree

/-- A list that maps to lists put one behind the other is made of such lists itself. -/
theorem exists_groups_of_map_eq {α β γ : Type} {f : α → β} {g : γ → List β} {cs : List γ}
    {xs : List α} (h : xs.map f = cs.flatMap g) :
    ∃ groups : List (γ × List α), groups.map Prod.fst = cs ∧
      (∀ p ∈ groups, p.2.map f = g p.1) ∧ groups.flatMap Prod.snd = xs := by
  induction cs generalizing xs with
  | nil => exact ⟨[], rfl, nofun, (List.map_eq_nil_iff.1 h).symm⟩
  | cons c cs ih =>
    obtain ⟨first, rest, rfl, hfirst, hrest⟩ := List.map_eq_append_iff.1 h
    obtain ⟨groups, rfl, hgroups, rfl⟩ := ih hrest
    exact ⟨(c, first) :: groups, rfl, List.forall_mem_cons.2 ⟨hfirst, hgroups⟩, rfl⟩

namespace Site

variable {t : Tree} {line : Int} {a i b : Nat}

theorem fieldsWindow_of_findChild (ha : (ofLine t line).anchor = some a)
    (hi : t.enclosing t.parents a Kind.typeDeclarations = some i)
    (hb : t.findChild i .objBlock = some b) (keep : Nat → Bool) :
    (ofLine t line).fieldsWindow keep
      = t.subtrees ((t.children b).filter fun m ↦ t.kind m = .variableDef && keep m) := by
  have htype : (ofLine t line).type? = some i := by
    rw [type?, ha, Option.bind_some, tree_ofLine, hi]
    rfl
  rw [fieldsWindow, htype]
  dsimp only
  rw [tree_ofLine, hb]

end Site

namespace Reading

/-- The type declarations in a reading are as the grammar has them: their headers, their bodies and
the modifiers of declarations consist of the rows that belong there, and no type of a row spells out
the kind of a declaration or of a list of statements or members. -/
structure DeclaresTypes (r : Reading) : Prop where
  reserved : ∀ row ∈ r.root.rows, (⟨Text.toUpper row.type⟩ : Kind) ∉ Kind.structural
  header : ∀ row ∈ r.root.rows, row.type ∈ Construct.typeDeclarations.map Prod.fst →
    ∀ c ∈ row.children, c.type ∈ headerTypes ∨ Construct.ofType c.type = .typeBody
  body : ∀ row ∈ r.root.rows, Construct.ofType row.type = .typeBody →
    ∀ c ∈ memberRows row, c.type ∈ bodyTypes
  modifiers : ∀ row ∈ r.root.rows, row.type = "modifiers" →
    ∀ c ∈ row.children, IsModifier r.source c

variable {r : Reading} {path : Text} {strict : Bool} {t : Tree} {i : Nat}

/-- The node of a type declaration is that of a row. -/
theorem exists_isDeclarationOf (hr : r.DeclaresTypes) (ht : r.tree path strict = .ok t)
    (hi : i < t.size) (hkind : t.kind i ∈ Kind.typeDeclarations) :
    ∃ row ∈ r.root.rows, t.IsDeclarationOf r.source row i := by
  obtain ⟨hroot, rfl⟩ := fitsInto_and_eq_of_tree ht
  obtain ⟨p, hp, hmem⟩ := Shaper.exists_stems (Tree.outline_mem_subtreesAll hi)
  obtain ⟨m, -, row, hrow, hfits, hmakes⟩ := hp.exists_makes hmem
  obtain ⟨kind, hconstruct, ho⟩ := hmakes.of_mem_typeDeclarations hkind (hr.reserved row hrow)
  exact ⟨row, hrow, kind, m, hconstruct, hfits hroot, ho⟩

variable {row body f : Cst} {b x m : Nat}

/-- A definition is static exactly if its declaration has the word among its modifiers. -/
theorem isStatic_eq_isStaticField (hr : r.DeclaresTypes) (hf : f ∈ r.root.rows)
    (hfits : fitsInto m f = true) (hx : t.outline x ∈ (shaper r.source m).field f) :
    t.isStatic x = isStaticField f := by
  obtain ⟨d, -, terminator, ho⟩ := exists_of_mem_field hx
  cases m with
  | zero => cases hfits
  | succ m =>
    rw [Tree.isStatic_eq_any (by rw [ho]; rfl) (Shaper.kind_modifiersOf f)]
    refine any_children_modifiersOf fun c hc ↦ ?_
    rw [modifierParts] at hc
    split at hc
    · next e he =>
      refine hr.modifiers e ?_ (by simpa using List.find?_some he) c hc
      exact mem_rows_trans hf (mem_rows_of_mem (List.mem_of_find?_eq_some he))
    · cases hc

/-- Below the node of the body of a type stand the definitions of its field declarations, each
shaped at a level that it fits into, and no others. -/
theorem exists_fields (hr : r.DeclaresTypes) (hbody : body ∈ r.root.rows)
    (hconstruct : Construct.ofType body.type = .typeBody) (hfits : fitsInto (m + 1) body = true)
    (hb : t.outline b = (shaper r.source (m + 1)).typeBody body) :
    ∃ fields : List (Cst × List Nat), fields.map Prod.fst = fieldRows body ∧
      (∀ p ∈ fields, ∃ n, fitsInto n p.1 = true ∧
        p.2.map t.outline = (shaper r.source n).field p.1) ∧
      ∀ (keep : Nat → Bool) (keepRow : Cst → Bool),
        (∀ p ∈ fields, ∀ x ∈ p.2, keep x = keepRow p.1) →
        (t.children b).filter (fun x ↦ t.kind x = .variableDef && keep x)
          = (fields.filter fun p ↦ keepRow p.1).flatMap Prod.snd := by
  obtain ⟨members, hmembers, hlevels, hchildren⟩ :=
    exists_memberLevels r.source hconstruct hfits
  rw [← hb, Tree.children_outline] at hchildren
  obtain ⟨groups, rfl, hgroups, hnodes⟩ := exists_groups_of_map_eq hchildren
  rw [List.map_map] at hmembers
  have houtline : ∀ p ∈ groups, ∀ x ∈ p.2,
      t.outline x ∈ (shaper r.source p.1.2).convertRow p.1.1 := by
    intro p hp x hx
    rw [← hgroups p hp]
    exact List.mem_map_of_mem hx
  have hfield : ∀ p ∈ groups, p.1.1.type ∈ fieldTypes → ∀ x ∈ p.2, t.kind x = .variableDef := by
    intro p hp htype x hx
    have ho := houtline p hp x hx
    rw [convertRow_of_mem_fieldTypes htype] at ho
    obtain ⟨d, -, terminator, ho⟩ := exists_of_mem_field ho
    rw [← Tree.kind_outline, ho, Shaper.kind_variableDef]
  have hother : ∀ p ∈ groups, p.1.1.type ∉ fieldTypes → ∀ x ∈ p.2, t.kind x ≠ .variableDef := by
    intro p hp htype x hx
    refine kind_ne_variableDef (hr.body body hbody hconstruct p.1.1 ?_) htype (houtline p hp x hx)
    rw [← hmembers]
    exact List.mem_map_of_mem (f := Prod.fst ∘ Prod.fst) hp
  refine ⟨(groups.filter fun p ↦ p.1.1.type ∈ fieldTypes).map fun p ↦ (p.1.1, p.2),
    ?_, fun q hq ↦ ?_, fun keep keepRow hkeep ↦ ?_⟩
  · rw [fieldRows, ← hmembers, List.filter_map, List.map_map]
    rfl
  · obtain ⟨p, hp, rfl⟩ := List.mem_map.1 hq
    obtain ⟨hp, htype⟩ := List.mem_filter.1 hp
    refine ⟨p.1.2, hlevels p.1 (List.mem_map_of_mem hp), ?_⟩
    rw [← convertRow_of_mem_fieldTypes (of_decide_eq_true htype)]
    exact hgroups p hp
  · -- Of a declaration all definitions are kept or none, and of any other row none.
    have hkeepAll : ∀ p ∈ groups, p.1.1.type ∈ fieldTypes → ∀ x ∈ p.2,
        (decide (t.kind x = .variableDef) && keep x) = keepRow p.1.1 := by
      intro p hp htype x hx
      rw [decide_eq_true (hfield p hp htype x hx), Bool.true_and]
      refine hkeep (p.1.1, p.2) (List.mem_map.2 ⟨p, List.mem_filter.2 ⟨hp, ?_⟩, rfl⟩) x hx
      exact decide_eq_true htype
    rw [← hnodes, List.filter_flatMap, List.filter_map, List.flatMap_map,
      ← flatMap_filter_of_eq_nil (p := fun p ↦ p.1.1.type ∈ fieldTypes) fun p hp htype ↦ ?_,
      ← flatMap_filter_of_eq_nil (p := fun p ↦ keepRow p.1.1) fun p hp hrow ↦ ?_]
    · refine List.flatMap_congr fun p hp ↦ ?_
      obtain ⟨hp, hrow⟩ := List.mem_filter.1 hp
      obtain ⟨hp, htype⟩ := List.mem_filter.1 hp
      refine List.filter_eq_self.2 fun x hx ↦ ?_
      rw [hkeepAll p hp (of_decide_eq_true htype) x hx]
      exact hrow
    · obtain ⟨hp, htype⟩ := List.mem_filter.1 hp
      refine List.filter_eq_nil_iff.2 fun x hx ↦ ?_
      rw [hkeepAll p hp (of_decide_eq_true htype) x hx, hrow]
      exact Bool.false_ne_true
    · refine List.filter_eq_nil_iff.2 fun x hx ↦ ?_
      rw [decide_eq_false (hother p hp (of_decide_eq_false htype) x hx), Bool.false_and]
      exact Bool.false_ne_true

/-- **The fields of the enclosing type.** The innermost type declaration around a warning is the
node of a row. If that has a body, the window of fields consists of the subtrees of the definitions
that the field declarations of the body are shaped to, one definition for each declarator, in their
order: the declarations right in the body, and in an enumeration those behind the constants. The
window of instance fields leaves out the definitions of those declarations that have the word
`static` among their modifiers. -/
theorem fieldsWindow_of_enclosing (hr : r.DeclaresTypes) (ht : r.tree path strict = .ok t)
    {line : Int} {a : Nat} (ha : (Site.ofLine t line).anchor = some a)
    (hi : t.enclosing t.parents a Kind.typeDeclarations = some i) :
    (∃ row ∈ r.root.rows, t.IsDeclarationOf r.source row i) ∧
    ∀ row ∈ r.root.rows, t.IsDeclarationOf r.source row i → ∀ body, bodyOf? row = some body →
      ∃ (b : Nat) (fields : List (Cst × List Nat)), t.findChild i .objBlock = some b ∧
        (fields.flatMap Prod.snd).Sublist (t.children b) ∧
        fields.map Prod.fst = fieldRows body ∧
        (∀ p ∈ fields, ∃ n, fitsInto n p.1 = true ∧
          p.2.map t.outline = (shaper r.source n).field p.1) ∧
        (Site.ofLine t line).window .fields = t.subtrees (fields.flatMap Prod.snd) ∧
        (Site.ofLine t line).window .instanceFields
          = t.subtrees ((fields.filter fun p ↦ !isStaticField p.1).flatMap Prod.snd) := by
  have hsize : i < t.size := Tree.lt_size_of_enclosing (Site.lt_size_of_anchor ha) hi
  have hkind : t.kind i ∈ Kind.typeDeclarations := by simpa using List.find?_some hi
  refine ⟨exists_isDeclarationOf hr ht hsize hkind, ?_⟩
  rintro row hrow ⟨kind, n, hconstruct, hfits, ho⟩ body hbody
  have hmem : body ∈ row.children := List.mem_of_find?_eq_some hbody
  have hbodyRow : body ∈ r.root.rows := mem_rows_trans hrow (mem_rows_of_mem hmem)
  have hbodyConstruct : Construct.ofType body.type = .typeBody := by
    simpa using List.find?_some hbody
  -- The node of the body is the first one of its kind below the declaration.
  obtain _ | _ | m := n
  · cases hfits
  · cases (Within.self (by rw [hconstruct]; rfl)).asks body hmem |>.fits hfits
  have hbodyFits : fitsInto (m + 1) body = true :=
    (Within.self (by rw [hconstruct]; rfl)).asks body hmem |>.fits hfits
  have hfind := t.map_outline_findChild i .objBlock
  have hheader := hr.header row hrow (mem_typeDeclarations_of_ofType hconstruct)
  rw [ho, find?_children_typeDeclaration hheader hbody] at hfind
  obtain ⟨b, hb, hbody⟩ := Option.map_eq_some_iff.1 hfind
  obtain ⟨fields, hrows, hfields, hfilter⟩ :=
    exists_fields hr hbodyRow hbodyConstruct hbodyFits hbody
  have hall := hfilter (fun _ ↦ true) (fun _ ↦ true) fun _ _ _ _ ↦ rfl
  rw [List.filter_eq_self.2 fun _ _ ↦ rfl] at hall
  have hinstance := hfilter (fun x ↦ !t.isStatic x) (fun f ↦ !isStaticField f) fun p hp x hx ↦ by
    obtain ⟨n, hn, hnodes⟩ := hfields p hp
    have hp : p.1 ∈ fieldRows body := hrows ▸ List.mem_map_of_mem hp
    have hp : p.1 ∈ body.rows := mem_rows_of_mem_memberRows (List.mem_filter.1 hp).1
    rw [isStatic_eq_isStaticField hr (mem_rows_trans hbodyRow hp) hn]
    rw [← hnodes]
    exact List.mem_map_of_mem hx
  refine ⟨b, fields, hb, ?_, hrows, hfields, ?_, ?_⟩
  · rw [← hall]
    exact List.filter_sublist
  · rw [← hall]
    exact Site.fieldsWindow_of_findChild ha hi hb _
  · rw [← hinstance]
    exact Site.fieldsWindow_of_findChild ha hi hb _

/-! ## An enumeration with fields -/

/-- The body of the enumeration: a constant, a declaration of two fields and one of a static
field. -/
def lettersBody : Cst :=
  ⟨"enum_body", 7, 37, true, false, some "body",
    [⟨"\x7b", 7, 8, false, false, none, []⟩,
      ⟨"enum_constant", 9, 10, true, false, none,
        [⟨"identifier", 9, 10, true, false, some "name", []⟩]⟩,
      ⟨"enum_body_declarations", 10, 35, true, false, none,
        [⟨";", 10, 11, false, false, none, []⟩,
          ⟨"field_declaration", 12, 21, true, false, none,
            [⟨"integral_type", 12, 15, true, false, some "type",
                [⟨"int", 12, 15, false, false, none, []⟩]⟩,
              ⟨"variable_declarator", 16, 17, true, false, some "declarator",
                [⟨"identifier", 16, 17, true, false, some "name", []⟩]⟩,
              ⟨",", 17, 18, false, false, none, []⟩,
              ⟨"variable_declarator", 19, 20, true, false, some "declarator",
                [⟨"identifier", 19, 20, true, false, some "name", []⟩]⟩,
              ⟨";", 20, 21, false, false, none, []⟩]⟩,
          ⟨"field_declaration", 22, 35, true, false, none,
            [⟨"modifiers", 22, 28, true, false, none,
                [⟨"static", 22, 28, false, false, none, []⟩]⟩,
              ⟨"integral_type", 29, 32, true, false, some "type",
                [⟨"int", 29, 32, false, false, none, []⟩]⟩,
              ⟨"variable_declarator", 33, 34, true, false, some "declarator",
                [⟨"identifier", 33, 34, true, false, some "name", []⟩]⟩,
              ⟨";", 34, 35, false, false, none, []⟩]⟩]⟩,
      ⟨"\x7d", 36, 37, false, false, none, []⟩]⟩

/-- The enumeration. -/
def lettersDeclaration : Cst :=
  ⟨"enum_declaration", 0, 37, true, false, none,
    [⟨"enum", 0, 4, false, false, none, []⟩,
      ⟨"identifier", 5, 6, true, false, some "name", []⟩, lettersBody]⟩

/-- An enumeration with one constant and three fields. -/
def letters : Reading where
  source := .ofBytes "enum E \x7b\nX;\nint a, b;\nstatic int c;\n\x7d".toUTF8
  root := ⟨"program", 0, 37, true, false, none, [lettersDeclaration]⟩
  flagged := false

theorem declaresTypes_letters : letters.DeclaresTypes := by
  have hmodifiers : (letters.root.rows.filter fun row ↦ row.type = "modifiers")
      = [⟨"modifiers", 22, 28, true, false, none,
          [⟨"static", 22, 28, false, false, none, []⟩]⟩] := by
    rfl
  refine ⟨by decide +kernel, by decide +kernel, by decide +kernel, fun row hrow htype c hc ↦ ?_⟩
  rw [eq_of_filter_eq_singleton hmodifiers hrow (decide_eq_true htype)] at hc
  rw [List.mem_singleton.1 hc]
  exact .word (by decide) (by decide +kernel)

/-- The tree of the enumeration. -/
def lettersTree : Tree :=
  .ofOutlines ((shaper letters.source nestingLimit).convertRow letters.root)

theorem tree_letters : letters.tree "E.java" true = .ok lettersTree := by rfl

theorem anchor_letters : (Site.ofLine lettersTree 3).anchor = some 10 := by
  have hfirst : 10 < lettersTree.size ∧ lettersTree.line 10 = 3 ∧
      ∀ i < 10, lettersTree.line i ≠ 3 := by decide +kernel
  exact Site.anchor_eq_some_of_isLeast (Tree.walk_ofOutlines _) (Site.isLeast_line hfirst)

theorem enclosing_letters :
    lettersTree.enclosing lettersTree.parents 10 Kind.typeDeclarations = some 1 := by
  have ht : lettersTree.LaidOut := Tree.laidOut_ofOutlines _
  have hbody : lettersTree.children 5 = [6, 7, 9, 10, 16, 22, 29] :=
    Tree.children_eq_of_links (by decide +kernel) (by decide +kernel)
  have hdeclaration : lettersTree.children 1 = [2, 3, 4, 5] :=
    Tree.children_eq_of_links (by decide +kernel) (by decide +kernel)
  have hfield : lettersTree.parents.parent? 10 = some 5 :=
    ht.parent?_eq_some_iff.2 (by rw [hbody]; decide)
  have hblock : lettersTree.parents.parent? 5 = some 1 :=
    ht.parent?_eq_some_iff.2 (by rw [hdeclaration]; decide)
  have hkinds : lettersTree.kind 10 = .variableDef ∧ lettersTree.kind 5 = .objBlock ∧
      lettersTree.kind 1 = .enumDef := by decide +kernel
  rw [Tree.enclosing, Parents.ancestors_of_parent?_eq_some hfield,
    Parents.ancestors_of_parent?_eq_some hblock, List.find?_cons, List.find?_cons,
    List.find?_cons, hkinds.1, hkinds.2.1, hkinds.2.2]
  decide

theorem isDeclarationOf_letters : lettersTree.IsDeclarationOf letters.source lettersDeclaration 1 :=
  ⟨.enumDef, 999, by decide, by decide +kernel,
    Tree.outline_of_getElem?_subtreesAll (by rfl)⟩

/-- In the enumeration, the window of fields has the definitions of both declarations, and that of
instance fields those of the first one. -/
theorem fieldsWindow_letters :
    (fieldRows lettersBody).map isStaticField = [false, true] ∧
    ∃ (b : Nat) (fields : List (Cst × List Nat)), lettersTree.findChild 1 .objBlock = some b ∧
      fields.map Prod.fst = fieldRows lettersBody ∧
      (Site.ofLine lettersTree 3).window .fields
        = lettersTree.subtrees (fields.flatMap Prod.snd) ∧
      (Site.ofLine lettersTree 3).window .instanceFields
        = lettersTree.subtrees
            ((fields.filter fun p ↦ !isStaticField p.1).flatMap Prod.snd) := by
  have hrow : lettersDeclaration ∈ letters.root.rows := by
    rw [letters, rows, rowsOfAll]
    exact List.mem_cons_of_mem _ (List.mem_append_left _ lettersDeclaration.mem_rows_self)
  obtain ⟨b, fields, hb, -, hrows, -, hall, hinstance⟩ :=
    (fieldsWindow_of_enclosing declaresTypes_letters tree_letters anchor_letters
      enclosing_letters).2 lettersDeclaration hrow isDeclarationOf_letters lettersBody (by rfl)
  exact ⟨by decide +kernel, b, fields, hb, hrows, hall, hinstance⟩

end Reading

end LintMark
