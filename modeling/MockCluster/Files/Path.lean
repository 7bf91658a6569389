/-!
Paths as text: names between slashes, where empty names and `.` lead nowhere.
-/

namespace MockCluster.FilePath

def split : List Char → List (List Char)
  | [] => [[]]
  | c :: rest =>
    if c = '/' then [] :: split rest
    else
      match split rest with
      | [] => [[c]]
      | first :: others => (c :: first) :: others

def join : List (List Char) → List Char
  | [] => []
  | [piece] => piece
  | piece :: next :: rest => piece ++ '/' :: join (next :: rest)

def isAbsolute (path : String) : Bool := path.toList.head? = some '/'

def lead (path : List Char) : List Char :=
  match path with
  | '/' :: _ => ['/']
  | ['.'] => ['.']
  | '.' :: '/' :: _ => ['.']
  | _ => []

def leadsNowhere (piece : List Char) : Bool :=
  piece = [] || piece = ['.']

def splitName? (path : List Char) : Option (List Char × List Char) :=
  let start := lead path
  match (split (path.drop start.length)).reverse.dropWhile leadsNowhere with
  | [] => none
  | name :: before =>
    if name = ['.', '.'] then none
    else some (start ++ join (before.dropWhile leadsNowhere).reverse, name)

def addName (path name : List Char) : List Char :=
  match path.getLast? with
  | none => name
  | some last => if last = '/' then path ++ name else path ++ '/' :: name

/-- The path beside another one whose name goes on with a dot and a suffix, `data.json.bak`, if the
other one ends in a name. -/
def sibling? (path suffix : String) : Option String :=
  (splitName? path.toList).map fun (before, name) =>
    String.ofList (addName before (name ++ '.' :: suffix.toList))

/-- The path beside another one, or below it if it ends in no name. -/
def sibling (path suffix : String) : String :=
  (sibling? path suffix).getD (String.ofList (addName path.toList ('.' :: suffix.toList)))

def seenFrom (directory path : String) : String :=
  if isAbsolute path then path else String.ofList (addName directory.toList path.toList)

/-- The pieces of a path without the first ones, if these are the names `names`; pieces that lead
nowhere do not count. -/
def dropNames? : (names pieces : List (List Char)) → Option (List (List Char))
  | [], pieces => some pieces
  | _ :: _, [] => none
  | name :: names, piece :: rest =>
    if leadsNowhere piece then dropNames? (name :: names) rest
    else if piece = name then dropNames? names rest
    else none

def behind? (directory path : String) : Option String :=
  if isAbsolute directory ≠ isAbsolute path then none
  else
    let names := (split directory.toList).filter fun piece => !leadsNowhere piece
    (dropNames? names (split path.toList)).map fun pieces =>
      let pieces := (pieces.dropWhile leadsNowhere).reverse.dropWhile leadsNowhere
      String.ofList (join pieces.reverse)

end MockCluster.FilePath
