import SqlGate.Query.Builder

namespace SqlGate

/-!
# Values do not reach the text

Bound values are only carried along.  Replacing each of them by another one, by
any function whatever, in all calls on a builder changes nothing about the
statement but its parameters, and these by that very function; a builder that
cannot be compiled fails in the same way.  In particular two values that the
function does not tell apart cannot be told apart by the text.

The law is proved along the way that a value takes.  Each function on that way
has one lemma, which moves the replacement from its argument to its result:
calls, drafts, predicates, templates, statements.  A branch that looked into a
value, or wrote one into the text, would have no such lemma.  The conditions of
fixed form need none of their own, since each of them is one call of the
general form.
-/

/-! ## Replacing values -/

def Operand.mapValues (f : Value -> Value) : Operand -> Operand
  | .none => .none
  | .scalar v => .scalar (f v)
  | .list vs => .list (vs.map f)

def Predicate.mapValues (f : Value -> Value) (p : Predicate) : Predicate :=
  { p with operand := p.operand.mapValues f }

def Statement.mapParams (f : Value -> Value) (statement : Statement) : Statement :=
  { statement with params := statement.params.map f }

def Template.Piece.mapValue (f : Value -> Value) : Piece -> Piece
  | .text s => .text s
  | .fragment s => .fragment s
  | .bound v => .bound (f v)

def Template.mapValues (f : Value -> Value) (template : Template) : Template :=
  template.map (Piece.mapValue f)

def Draft.mapValues (f : Value -> Value) (draft : Draft) : Draft :=
  { draft with
    wheres := draft.wheres.map (Predicate.mapValues f)
    having := draft.having.map (Predicate.mapValues f)
    insertValues := draft.insertValues.mapValues f
    updateValues := draft.updateValues.mapValues f }

def mapPayload (f : Value -> Value) (payload : List (String × Value)) : List (String × Value) :=
  payload.map fun pair => (pair.1, f pair.2)

def Call.mapValues (f : Value -> Value) : Call -> Call
  | .insert payload => .insert (mapPayload f payload)
  | .update payload => .update (mapPayload f payload)
  | .raw sql params => .raw sql (params.map f)
  | .condition connective field op operand =>
      .condition connective field op (operand.mapValues f)
  | .having field op operand => .having field op (operand.mapValues f)
  | call => call

def Builder.mapValues (f : Value -> Value) (b : Builder) : Builder :=
  { b with
    draft := b.draft.mapValues f
    raw := b.raw.map (Statement.mapParams f) }

/-! ## Templates -/

namespace Template

variable (f : Value -> Value)

theorem mapValues_append (front behind : Template) :
    mapValues f (front ++ behind) = mapValues f front ++ mapValues f behind :=
  List.map_append

/-- The text does not depend on the values. -/
theorem write_mapValues (next : Nat) (template : Template) :
    write next (mapValues f template) = write next template := by
  induction template generalizing next with
  | nil => rfl
  | cons piece rest ih =>
      cases piece with
      | text s => exact congrArg (s.toList ++ ·) (ih next)
      | fragment s => exact congrArg (s.toList ++ ·) (ih next)
      | bound v => exact congrArg ((Placeholder.mk next).write ++ ·) (ih (next + 1))

theorem params_mapValues (template : Template) :
    params (mapValues f template) = (params template).map f := by
  induction template with
  | nil => rfl
  | cons piece rest ih =>
      cases piece with
      | text s => exact ih
      | fragment s => exact ih
      | bound v => exact congrArg (f v :: ·) ih

theorem statement_mapValues (template : Template) :
    (mapValues f template).statement = template.statement.mapParams f := by
  rw [statement, statement, write_mapValues, params_mapValues]
  rfl

theorem mapValues_commas (items : List Template) :
    mapValues f (commas items) = commas (items.map (mapValues f)) := by
  induction items with
  | nil => rfl
  | cons first rest ih =>
      cases rest with
      | nil => rfl
      | cons second others =>
          change mapValues f (first ++ [.text ", "] ++ commas (second :: others)) = _
          rw [mapValues_append, mapValues_append, ih]
          rfl

theorem mapValues_values (vs : List Value) : mapValues f (values vs) = values (vs.map f) := by
  rw [values, values, mapValues_commas, List.map_map, List.map_map]
  rfl

theorem mapValues_fragments (names : List String) :
    mapValues f (Draft.fragments names) = Draft.fragments names := by
  rw [Draft.fragments, mapValues_commas, List.map_map]
  rfl

end Template

/-! ## Predicates -/

namespace Predicate

variable (f : Value -> Value)

/-- Which operand is refused, and why, does not depend on the values. -/
theorem rightSide_mapValues (p : Predicate) :
    (p.mapValues f).rightSide = p.rightSide.map (Template.mapValues f) := by
  obtain ⟨field, operator, operand, connective⟩ := p
  unfold rightSide mapValues
  cases operand with
  | none => cases operator.isMembership <;> rfl
  | scalar v => cases operator.isMembership <;> rfl
  | list vs =>
      cases vs with
      | nil => cases operator.isMembership <;> rfl
      | cons v rest =>
          cases operator.isMembership with
          | false => rfl
          | true =>
              have listed := Template.mapValues_values f (v :: rest)
              simp only [Operand.mapValues, List.map_cons, Except.map,
                Template.mapValues_append] at listed ⊢
              rw [listed]
              rfl

theorem template_mapValues (p : Predicate) :
    (p.mapValues f).template = p.template.map (Template.mapValues f) := by
  have same : (p.mapValues f).operator = p.operator := rfl
  unfold template
  rw [rightSide_mapValues, same]
  cases p.operator.isUnary with
  | true => rfl
  | false => cases p.rightSide <;> rfl

/-- A joiner looks at no value. -/
def IsBlind (joiner : Predicate -> Template) : Prop :=
  ∀ p, joiner (p.mapValues f) = (joiner p).mapValues f

theorem isBlind_joiner : IsBlind f joiner := by
  intro p
  obtain ⟨field, operator, operand, connective⟩ := p
  cases connective <;> rfl

variable {f} {joiner : Predicate -> Template}

theorem followers_mapValues (blind : IsBlind f joiner) (ps : List Predicate) :
    followers joiner (ps.map (mapValues f))
      = (followers joiner ps).map (Template.mapValues f) := by
  induction ps with
  | nil => rfl
  | cons p rest ih =>
      simp only [List.map_cons, followers, template_mapValues, ih, blind p]
      cases p.template with
      | error fault => rfl
      | ok here =>
          cases followers joiner rest with
          | error fault => rfl
          | ok others =>
              exact congrArg Except.ok (by
                rw [Template.mapValues_append, Template.mapValues_append])

theorem chain_mapValues (blind : IsBlind f joiner) (keyword : String) (ps : List Predicate) :
    chain keyword joiner (ps.map (mapValues f))
      = (chain keyword joiner ps).map (Template.mapValues f) := by
  cases ps with
  | nil => rfl
  | cons p rest =>
      simp only [List.map_cons, chain, template_mapValues, followers_mapValues blind]
      cases p.template with
      | error fault => rfl
      | ok here =>
          cases followers joiner rest with
          | error fault => rfl
          | ok others =>
              exact congrArg (fun t => Except.ok (Template.Piece.text keyword :: t))
                (Template.mapValues_append f here others).symm

theorem whereClause_mapValues (f : Value -> Value) (ps : List Predicate) :
    whereClause (ps.map (mapValues f)) = (whereClause ps).map (Template.mapValues f) :=
  chain_mapValues (isBlind_joiner f) " WHERE " ps

theorem havingClause_mapValues (f : Value -> Value) (ps : List Predicate) :
    havingClause (ps.map (mapValues f)) = (havingClause ps).map (Template.mapValues f) :=
  chain_mapValues (fun _ => rfl) " HAVING " ps

end Predicate

/-! ## Drafts -/

namespace Draft

variable (f : Value -> Value) (draft : Draft)

theorem mapValues_columnList : draft.columnList.mapValues f = draft.columnList := by
  unfold columnList
  split
  · rfl
  · exact Template.mapValues_fragments f draft.columns

theorem mapValues_joinClause (join : Join) :
    (joinClause join).mapValues f = joinClause join := by
  obtain ⟨kind, table, alias?, on⟩ := join
  cases alias? <;> rfl

theorem mapValues_joins (joins : List Join) :
    Template.mapValues f (joins.flatMap joinClause) = joins.flatMap joinClause := by
  induction joins with
  | nil => rfl
  | cons join rest ih =>
      rw [List.flatMap_cons, Template.mapValues_append, mapValues_joinClause, ih]

theorem mapValues_groupClause : draft.groupClause.mapValues f = draft.groupClause := by
  unfold groupClause
  split
  · rfl
  · exact congrArg (_ :: ·) (Template.mapValues_fragments f draft.groupBy)

theorem mapValues_orderClause : draft.orderClause.mapValues f = draft.orderClause := by
  unfold orderClause
  split
  · rfl
  · refine congrArg (_ :: ·) ?_
    change Template.mapValues f (Template.commas _) = _
    rw [Template.mapValues_commas, List.map_map]
    rfl

theorem mapValues_pageClause : draft.pageClause.mapValues f = draft.pageClause := by
  unfold pageClause
  cases draft.limit <;> cases draft.offset <;> rfl

theorem selectTemplate_mapValues :
    (draft.mapValues f).selectTemplate = draft.selectTemplate.map (Template.mapValues f) := by
  have wheres := Predicate.whereClause_mapValues f draft.wheres
  have having := Predicate.havingClause_mapValues f draft.having
  unfold selectTemplate selectBody
  simp only [mapValues, wheres, having]
  cases Predicate.whereClause draft.wheres with
  | error fault => rfl
  | ok rows =>
      cases Predicate.havingClause draft.having with
      | error fault => rfl
      | ok groups =>
          refine congrArg Except.ok ?_
          simp only [Template.mapValues_append, mapValues_columnList, mapValues_joins,
            mapValues_groupClause, mapValues_orderClause, mapValues_pageClause]
          rfl

theorem insertTemplate_mapValues :
    (draft.mapValues f).insertTemplate = draft.insertTemplate.map (Template.mapValues f) := by
  unfold insertTemplate
  simp only [mapValues, Ordered.isEmpty_mapValues, Ordered.keys_mapValues,
    Ordered.values_mapValues]
  split
  · rfl
  · refine congrArg Except.ok ?_
    simp only [Template.mapValues_append, Template.mapValues_fragments,
      Template.mapValues_values]
    rfl

theorem mapValues_assignments (payload : Ordered Value) :
    Template.mapValues f (Template.commas (payload.entries.map assignment))
      = Template.commas ((payload.mapValues f).entries.map assignment) := by
  rw [Template.mapValues_commas, List.map_map, Ordered.mapValues, List.map_map]
  rfl

theorem updateTemplate_mapValues :
    (draft.mapValues f).updateTemplate = draft.updateTemplate.map (Template.mapValues f) := by
  have wheres := Predicate.whereClause_mapValues f draft.wheres
  have assignments := mapValues_assignments f draft.updateValues
  unfold updateTemplate
  simp only [mapValues, wheres, Ordered.isEmpty_mapValues]
  split
  · rfl
  · cases Predicate.whereClause draft.wheres with
    | error fault => rfl
    | ok rows =>
        refine congrArg Except.ok ?_
        simp only [Template.mapValues_append, assignments]
        rfl

theorem deleteTemplate_mapValues :
    (draft.mapValues f).deleteTemplate = draft.deleteTemplate.map (Template.mapValues f) := by
  have wheres := Predicate.whereClause_mapValues f draft.wheres
  unfold deleteTemplate
  simp only [mapValues, wheres]
  cases Predicate.whereClause draft.wheres <;> rfl

theorem template_mapValues :
    (draft.mapValues f).template = draft.template.map (Template.mapValues f) := by
  have kind : (draft.mapValues f).kind = draft.kind := rfl
  have table : (draft.mapValues f).table = draft.table := rfl
  unfold template
  rw [kind, table, selectTemplate_mapValues, insertTemplate_mapValues,
    updateTemplate_mapValues, deleteTemplate_mapValues]
  cases draft.kind with
  | none => rfl
  | some chosen =>
      dsimp only
      split
      · rfl
      · cases chosen <;> rfl

/-- A draft with other values compiles to the same text with other parameters, or fails in
the same way. -/
theorem compile_mapValues :
    (draft.mapValues f).compile = draft.compile.map (Statement.mapParams f) := by
  unfold compile
  rw [template_mapValues]
  cases draft.template with
  | error fault => rfl
  | ok template => exact congrArg Except.ok (Template.statement_mapValues f template)

end Draft

/-! ## Builders -/

namespace Builder

variable (f : Value -> Value)

/-- A condition with other values; whether it is refused depends on its operator only. -/
theorem condition_mapValues (b : Builder) (connective : Connective) (field : String)
    (op : OperatorSource) (operand : Operand) :
    (b.mapValues f).condition connective field op (operand.mapValues f)
      = (b.condition connective field op operand).mapValues f := by
  unfold condition
  cases op.resolve with
  | error fault => rfl
  | ok op => simp [edit, mapValues, Draft.mapValues, Predicate.mapValues]

theorem having_mapValues (b : Builder) (field : String) (op : OperatorSource)
    (operand : Operand) :
    (b.mapValues f).having field op (operand.mapValues f)
      = (b.having field op operand).mapValues f := by
  unfold having
  cases op.resolve with
  | error fault => rfl
  | ok op => simp [edit, mapValues, Draft.mapValues, Predicate.mapValues]

/-- One call with other values on a builder with other values. -/
theorem apply_mapValues (b : Builder) (call : Call) :
    (b.mapValues f).apply (call.mapValues f) = (b.apply call).mapValues f := by
  cases call with
  | condition connective field op operand =>
      exact condition_mapValues f b connective field op operand
  | having field op operand => exact having_mapValues f b field op operand
  | insert payload =>
      simp [apply, Call.mapValues, insert, edit, mapValues, Draft.mapValues, mapPayload,
        Ordered.mapValues_ofList]
  | update payload =>
      simp [apply, Call.mapValues, update, edit, mapValues, Draft.mapValues, mapPayload,
        Ordered.mapValues_ofList]
  | _ => rfl

/-- A run of calls with other values. -/
theorem applyAll_mapValues (b : Builder) (calls : List Call) :
    (b.mapValues f).applyAll (calls.map (Call.mapValues f))
      = (b.applyAll calls).mapValues f := by
  induction calls generalizing b with
  | nil => rfl
  | cons call rest ih =>
      change ((b.mapValues f).apply (call.mapValues f)).applyAll (rest.map (Call.mapValues f)) = _
      rw [apply_mapValues]
      exact ih (b.apply call)

theorem mapValues_build (b : Builder) :
    (b.mapValues f).build = b.build.map (Statement.mapParams f) := by
  obtain ⟨draft, raw, fault⟩ := b
  cases raw with
  | some statement => rfl
  | none =>
      cases fault with
      | some fault => rfl
      | none => exact draft.compile_mapValues f

theorem mapValues_buildOne (b : Builder) :
    (b.mapValues f).buildOne = b.buildOne.map (Statement.mapParams f) :=
  mapValues_build f (b.limit 1)

theorem mapValues_buildCount (b : Builder) :
    (b.mapValues f).buildCount = b.buildCount.map (Statement.mapParams f) := by
  have raw : (b.mapValues f).raw.isNone = b.raw.isNone := by
    cases found : b.raw <;> simp [mapValues, found]
  have kind : (b.mapValues f).isOtherKind = b.isOtherKind := rfl
  unfold buildCount
  rw [raw, kind]
  split
  · rfl
  · exact mapValues_build f (b.edit countDraft)

/-- No bound value influences the text of a statement.

Replacing every value in a run of calls by its image under any function leaves
the statement, the statement of the first row and the statement that counts as
they are, but for their parameters, which are replaced by their images; and
where one of them cannot be built, the fault stays the same. -/
theorem build_applyAll_mapValues (table : String) (calls : List Call) :
    let original := (new table).applyAll calls
    let replaced := (new table).applyAll (calls.map (Call.mapValues f))
    replaced.build = original.build.map (Statement.mapParams f)
      ∧ replaced.buildOne = original.buildOne.map (Statement.mapParams f)
      ∧ replaced.buildCount = original.buildCount.map (Statement.mapParams f) := by
  intro original replaced
  have same : replaced = original.mapValues f := applyAll_mapValues f (new table) calls
  rw [same]
  exact ⟨mapValues_build f original, mapValues_buildOne f original,
    mapValues_buildCount f original⟩

end Builder
end SqlGate
