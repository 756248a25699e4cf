import SqlGate.Query.Compile

namespace SqlGate

/-!
# Normal forms of drafts

Different drafts may compile to one statement.  A selection of nothing in
particular is one of everything, a single value asked for membership is a list
of one, and a check for null has no operand.  The connective of a condition is
of no use where the condition is the first of its chain, or one on groups.  And
a draft may carry what its kind does not write.

The normal form of a draft settles all of these, and no more.
-/

/-- The operand that an operator makes of the one it is given. -/
def Operand.normal (op : Operator) (operand : Operand) : Operand :=
  if op.isUnary then .none
  else
    match operand, op.isMembership with
    | .scalar v, true => .list [v]
    | operand, _ => operand

theorem Operand.normal_of_unary {op : Operator} (unary : op.isUnary = true) (operand : Operand) :
    operand.normal op = .none :=
  if_pos unary

theorem Operand.normal_scalar {op : Operator} (binary : op.isUnary = false) (v : Value) :
    (Operand.scalar v).normal op = if op.isMembership then .list [v] else .scalar v := by
  unfold normal
  rw [binary, if_neg Bool.false_ne_true]
  cases op.isMembership <;> rfl

theorem Operand.normal_list {op : Operator} (binary : op.isUnary = false) (vs : List Value) :
    (Operand.list vs).normal op = .list vs := by
  unfold normal
  rw [binary, if_neg Bool.false_ne_true]

namespace Predicate

/-- A predicate with the operand that its operator makes of its own. -/
def normal (p : Predicate) : Predicate :=
  { p with operand := p.operand.normal p.operator }

/-- A predicate whose connective is of no use. -/
def alone (p : Predicate) : Predicate :=
  { p.normal with connective := .and }

/-- A chain, in which nothing stands before the first predicate. -/
def normalChain : List Predicate -> List Predicate
  | [] => []
  | p :: rest => p.alone :: rest.map normal

theorem template_normal (p : Predicate) : p.normal.template = p.template := by
  have operator : p.normal.operator = p.operator := rfl
  have operand : p.normal.operand = p.operand.normal p.operator := rfl
  unfold template
  rw [operator]
  by_cases unary : p.operator.isUnary = true
  · rw [if_pos unary, if_pos unary]
    rfl
  · rw [if_neg unary, if_neg unary]
    refine congrArg (Except.map _) ?_
    unfold rightSide
    rw [operator, operand]
    unfold Operand.normal
    rw [if_neg unary]
    generalize p.operator.isMembership = member
    cases p.operand <;> cases member <;> rfl

theorem template_alone (p : Predicate) : p.alone.template = p.template :=
  p.template_normal

theorem followers_map (joiner : Predicate -> Template) {change : Predicate -> Predicate}
    (written : ∀ p, (change p).template = p.template) (joined : ∀ p, joiner (change p) = joiner p)
    (ps : List Predicate) : followers joiner (ps.map change) = followers joiner ps := by
  induction ps with
  | nil => rfl
  | cons p rest ih => rw [List.map_cons, followers, followers, written, joined, ih]

theorem whereClause_normalChain (ps : List Predicate) :
    whereClause (normalChain ps) = whereClause ps := by
  cases ps with
  | nil => rfl
  | cons p rest =>
      have behind := followers_map joiner template_normal (fun _ => rfl) rest
      rw [whereClause, normalChain, chain, chain, template_alone, behind]

theorem havingClause_alone (ps : List Predicate) :
    havingClause (ps.map alone) = havingClause ps := by
  cases ps with
  | nil => rfl
  | cons p rest =>
      have behind := followers_map (fun _ => [.text " AND "]) template_alone
        (fun _ => rfl) rest
      rw [havingClause, List.map_cons, chain, chain, template_alone, behind]

end Predicate

namespace Draft

/-- A draft without what its statement does not tell. -/
def normal (draft : Draft) : Draft :=
  match draft.kind with
  | none => draft
  | some .select =>
      { kind := some .select
        table := draft.table
        columns := if draft.columns.isEmpty then ["*"] else draft.columns
        wheres := Predicate.normalChain draft.wheres
        joins := draft.joins
        groupBy := draft.groupBy
        having := draft.having.map Predicate.alone
        orderBy := draft.orderBy
        limit := draft.limit
        offset := draft.offset }
  | some .insert =>
      { kind := some .insert, table := draft.table, insertValues := draft.insertValues }
  | some .update =>
      { kind := some .update
        table := draft.table
        wheres := Predicate.normalChain draft.wheres
        updateValues := draft.updateValues }
  | some .delete =>
      { kind := some .delete
        table := draft.table
        wheres := Predicate.normalChain draft.wheres }

theorem selectBody_normal (draft : Draft) (selects : draft.kind = some .select) :
    draft.normal.selectBody = draft.selectBody := by
  rw [normal, selects]
  simp only [selectBody, Predicate.whereClause_normalChain, Predicate.havingClause_alone,
    groupClause]

theorem compile_of_select (draft : Draft) (selects : draft.kind = some .select) :
    draft.compile =
      if Text.isBlankText draft.table then .error .noTable
      else draft.selectBody.map fun body =>
        Template.statement ([.text "SELECT "] ++ draft.columnList ++ body ++ draft.orderClause
          ++ draft.pageClause) := by
  rw [compile, template, selects]
  dsimp only
  split
  · rfl
  · rw [selectTemplate]
    cases draft.selectBody <;> rfl

/-- Everything is selected by the same text, whether it is asked for or not. -/
theorem statement_columnList (draft : Draft) (selects : draft.kind = some .select)
    (rest : Template) :
    Template.statement ([.text "SELECT "] ++ (draft.normal.columnList ++ rest))
      = Template.statement ([.text "SELECT "] ++ (draft.columnList ++ rest)) := by
  rw [normal, selects]
  unfold columnList
  cases draft.columns <;> rfl

/-- A draft and its normal form have the same statement, or fail in the same way. -/
theorem compile_normal (draft : Draft) : draft.normal.compile = draft.compile := by
  cases kind : draft.kind with
  | none => rw [normal, kind]
  | some chosen =>
      cases chosen with
      | select =>
          have selects : draft.normal.kind = some .select := by rw [normal, kind]
          have table : draft.normal.table = draft.table := by rw [normal, kind]
          have order : draft.normal.orderClause = draft.orderClause := by rw [normal, kind]; rfl
          have page : draft.normal.pageClause = draft.pageClause := by rw [normal, kind]; rfl
          rw [compile_of_select draft.normal selects, compile_of_select draft kind,
            selectBody_normal draft kind, table, order, page]
          simp only [List.append_assoc, statement_columnList draft kind]
      | insert => rw [compile, compile, template, template, normal, kind]; rfl
      | update =>
          rw [compile, compile, template, template, normal, kind]
          simp only [updateTemplate, Predicate.whereClause_normalChain]
      | delete =>
          rw [compile, compile, template, template, normal, kind]
          simp only [deleteTemplate, Predicate.whereClause_normalChain]

end Draft
end SqlGate
