namespace SqlGate
namespace Wire

/-!
# Column types

A server tells the type of a column by a number.  The numbers of its own types
are fixed, and so are the names they are told by in messages; the types that
have a decoder here are told apart, and the text types share one.
-/

/-- A column type, as far as its cells are decoded differently. -/
inductive ColumnType where
  | bool
  | bytes
  | int (width : Nat)
  | single
  | double
  | json
  | jsonb
  | uuid
  | date
  | time
  | timestamp
  | timestampTz
  | text
  | other
deriving DecidableEq, Repr

/-- The types of the numbers. -/
def columnTypes : List (Nat × ColumnType) :=
  [(16, .bool), (17, .bytes), (20, .int 64), (21, .int 16), (23, .int 32), (700, .single),
    (701, .double), (114, .json), (3802, .jsonb), (2950, .uuid), (1082, .date), (1083, .time),
    (1114, .timestamp), (1184, .timestampTz), (19, .text), (25, .text), (705, .text),
    (1042, .text), (1043, .text)]

def ColumnType.ofNumber (number : Nat) : ColumnType :=
  (columnTypes.lookup number).getD .other

/-- The names of the numbers of single types. -/
def plainTypeNames : List (Nat × String) :=
  [(16, "BOOL"), (17, "BYTEA"), (18, "\"CHAR\""), (19, "NAME"), (20, "INT8"), (21, "INT2"),
    (23, "INT4"), (25, "TEXT"), (26, "OID"), (114, "JSON"), (600, "POINT"), (601, "LSEG"),
    (602, "PATH"), (603, "BOX"), (604, "POLYGON"), (628, "LINE"), (650, "CIDR"),
    (700, "FLOAT4"), (701, "FLOAT8"), (705, "UNKNOWN"), (718, "CIRCLE"), (774, "MACADDR8"),
    (790, "MONEY"), (829, "MACADDR"), (869, "INET"), (1042, "CHAR"), (1043, "VARCHAR"),
    (1082, "DATE"), (1083, "TIME"), (1114, "TIMESTAMP"), (1184, "TIMESTAMPTZ"),
    (1186, "INTERVAL"), (1266, "TIMETZ"), (1560, "BIT"), (1562, "VARBIT"), (1700, "NUMERIC"),
    (2249, "RECORD"), (2278, "VOID"), (2950, "UUID"), (3802, "JSONB"), (3904, "INT4RANGE"),
    (3906, "NUMRANGE"), (3908, "TSRANGE"), (3910, "TSTZRANGE"), (3912, "DATERANGE"),
    (3926, "INT8RANGE"), (4072, "JSONPATH")]

/-- The numbers of array types with those of their items. -/
def arrayTypes : List (Nat × Nat) :=
  [(199, 114), (629, 628), (651, 650), (719, 718), (775, 774), (791, 790), (1000, 16),
    (1001, 17), (1002, 18), (1003, 19), (1005, 21), (1007, 23), (1009, 25), (1014, 1042),
    (1015, 1043), (1016, 20), (1017, 600), (1018, 601), (1019, 602), (1020, 603), (1021, 700),
    (1022, 701), (1027, 604), (1028, 26), (1040, 829), (1041, 869), (1115, 1114), (1182, 1082),
    (1183, 1083), (1185, 1184), (1187, 1186), (1231, 1700), (1270, 1266), (1561, 1560),
    (1563, 1562), (2287, 2249), (2951, 2950), (3807, 3802), (3905, 3904), (3907, 3906),
    (3909, 3908), (3911, 3910), (3913, 3912), (3927, 3926), (4073, 4072)]

/-- The name of the type of a number; one that is not known is told by a question mark. -/
def typeName (number : Nat) : String :=
  match plainTypeNames.lookup number with
  | some name => name
  | none =>
      match (arrayTypes.lookup number).bind fun item => plainTypeNames.lookup item with
      | some name => name ++ "[]"
      | none => "?"

end Wire
end SqlGate
