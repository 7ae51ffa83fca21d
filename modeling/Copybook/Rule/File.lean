import Copybook.Rule.Store

/-!
Rule files. A file whose name ends in `.csv` is a table with the columns group, category, name and
rule, of which the rows of one group may be chosen; any other file is a JSON document with an object
of categories. -/
namespace Copybook
namespace Rule
namespace File

def columns : List Text := ["group", "category", "name", "rule"]

def invalid (path : Path) (complaint : Text) : Failure :=
  .problem (.configuration ("Invalid rule file " ++ path.toText ++ ": " ++ complaint))

/-- Adds the rules of one category, whatever they are, as texts. -/
def addCategory (s : Store) (category : Text) : List (Text × Json.Value) → Except Failure Store
  | [] => .ok s
  | (name, rule) :: rest => do
    let text ← rule.display.mapError fun problem => .fault (.numeral problem)
    addCategory (s.add (some category) (some name) (.text text)) category rest

def ofCategories (path : Path) (s : Store) : List (Text × Json.Value) → Except Failure Store
  | [] => .ok s
  | (category, .object rules) :: rest => do ofCategories path (← addCategory s category rules) rest
  | (category, _) :: _ => .error (invalid path ("category " ++ category ++ " is not an object"))

def ofJson (depth : Json.Depth) (path : Path) (document : Text) : Except Failure Store :=
  match Json.read depth document with
  | .error (.malformed fault) => .error (invalid path (fault.message document))
  | .error failure => .error (.fault (.ofJson document failure))
  | .ok data =>
    match data.get? "rules" with
    | some (.object rules) => ofCategories path (.empty ((data.get? "group").getD .null)) rules
    | _ => .error (invalid path "missing \"rules\" object")

/-- The value of a row in a column; a short row has none. -/
def cell (header record : List Text) (column : Text) : Option Text :=
  (Csv.column? column header).bind fun place => record[place]?

def isChosen (group : Json.Value) (row : Option Text) : Bool :=
  !group.isTruthy || match group, row with
    | .text t, some u => t == u
    | _, _ => false

def ofRecords (group : Json.Value) (header : List Text) (records : List (List Text)) : Store :=
  let rows := records.filter fun record =>
    !record.isEmpty && isChosen group (cell header record "group")
  (Table.empty group).addAll (rows.map fun record =>
    (cell header record "category", cell header record "name",
      .ofOption (cell header record "rule")))

def ofTable (path : Path) (group : Json.Value) (document : Text) : Except Failure Store :=
  let table := Csv.read document.breakLines
  let header := table.records.headD []
  if table.records.isEmpty && table.overlong then .error (.fault .overlongField)
  else
    match columns.filter fun column => !header.contains column with
    | [] =>
      if table.overlong then .error (.fault .overlongField)
      else .ok (ofRecords group header table.records.tail)
    | missing => .error (invalid path ("missing columns " ++ Text.join ", " missing))

def content (files : Files.Tree) (path : Path) : Except Failure Text :=
  match files.read path with
  | .error (.trouble trouble name) =>
    .error (.problem (.source ("Unable to read rule file " ++ path.toText ++ ": " ++
      (Files.Fault.trouble trouble name).message)))
  | .error .nullCharacter => .error (.fault (.files .nullCharacter))
  | .ok bytes => (Encoding.readAll bytes).mapError fun fault => .fault (.decoding (.undecodable fault))

def store (depth : Json.Depth) (path : Path) (group : Json.Value) (document : Text) :
    Except Failure Store :=
  if path.suffix.lower = (".csv" : Text) then ofTable path group document
  else ofJson depth path document

end File

structure Loading where
  notes : List Log.Record
  result : Except Failure Store

def load (depth : Json.Depth) (files : Files.Tree) (path : Path) (group : Json.Value) : Loading :=
  match File.content files path with
  | .error failure => ⟨[], .error failure⟩
  | .ok document =>
    match File.store depth path group document with
    | .error failure => ⟨[], .error failure⟩
    | .ok s => ⟨[⟨.info, Log.Channel.rules, "Loaded " ++ Text.ofNat s.size ++ " rules from " ++ path.toText⟩],
        .ok s⟩

end Rule
end Copybook
