/-
# Values

What a configuration or a table of routes is read from: plain data, or a rule, a
configuration or a route that was built earlier and whose fields nobody has
checked.

A map lists its entries in the order of insertion.  Its keys are hashable and
pairwise different: numbers that are equal are one key, whatever their kind.
-/

import RouteTable.Number.Binary64
import RouteTable.Text.Numeral
import RouteTable.Text.Quoted

namespace RouteTable

/-- A value. -/
inductive Value where
  | null
  | bool (b : Bool)
  | int (n : Int)
  | float (x : Binary64)
  | text (t : Text)
  | list (items : List Value)
  | tuple (items : List Value)
  | map (entries : List (Value × Value))
  /-- A redirect rule. -/
  | redirect (source destination : Text) (status : Value)
  /-- A rewrite rule. -/
  | rewrite (source destination : Text)
  /-- A header rule. -/
  | headerRule (source : Text) (headers : List (Text × Text))
  /-- A configuration; an absent section is `null`. -/
  | config (cleanUrls trailingSlash redirects rewrites headers : Value)
  /-- A redirect route. -/
  | redirectRoute (src headers status : Value)
  /-- A rewrite route. -/
  | rewriteRoute (src dest check : Value)
  /-- A header route. -/
  | headerRoute (src headers goOn : Value)
  /-- A marker of a phase. -/
  | handleRoute (handle : Value)
  deriving Repr

namespace Value

/-- The name of a value's kind in messages. -/
def kind : Value → String
  | null => "NoneType"
  | bool _ => "bool"
  | int _ => "int"
  | float _ => "float"
  | text _ => "str"
  | list _ => "list"
  | tuple _ => "tuple"
  | map _ => "dict"
  | redirect .. => "Redirect"
  | rewrite .. => "Rewrite"
  | headerRule .. => "HeaderRule"
  | config .. => "RoutingConfig"
  | redirectRoute .. => "RedirectRoute"
  | rewriteRoute .. => "RewriteRoute"
  | headerRoute .. => "HeaderRoute"
  | handleRoute .. => "HandleRoute"

/-- Why plain data cannot be used as its place asks. -/
inductive Fault where
  /-- A value whose items are asked for has none. -/
  | notIterable (kind : String)
  /-- A value that is looked up, or is to be a key, is of a kind that changes. -/
  | unhashable (kind : String)
  /-- An item of a list of pairs is not a sequence. -/
  | notASequence (index : Nat)
  /-- An item of a list of pairs is a sequence, but not of two. -/
  | notAPair (index length : Nat)
  /-- An integer that is to be written has too many digits. -/
  | numeralTooLong
  deriving DecidableEq, Repr

/-- The message of a fault. -/
def Fault.message : Fault → String
  | notIterable kind => s!"'{kind}' object is not iterable"
  | unhashable kind => s!"unhashable type: '{kind}'"
  | notASequence i => s!"cannot convert dictionary update sequence element #{i} to a sequence"
  | notAPair i n => s!"dictionary update sequence element #{i} has length {n}; 2 is required"
  | numeralTooLong =>
    s!"Exceeds the limit ({maxNumeralLength} digits) for integer string conversion; " ++
      "use sys.set_int_max_str_digits() to increase the limit"

/-- Whether a value counts as true: nothing, zero and what is empty do not. -/
def isTrue : Value → Bool
  | null => false
  | bool b => b
  | int n => n != 0
  | float x => !x.isZero
  | text t => !t.isEmpty
  | list items => !items.isEmpty
  | tuple items => !items.isEmpty
  | map entries => !entries.isEmpty
  | _ => true

/-- The items of a value in order: of a text its characters, of a map its keys. -/
def items : Value → Except Fault (List Value)
  | list items => .ok items
  | tuple items => .ok items
  | text t => .ok (t.map fun c => text [c])
  | map entries => .ok (entries.map Prod.fst)
  | v => .error (.notIterable v.kind)

mutual

/-- The kind of what keeps a value from being hashable, if anything does. -/
def unhashable? : Value → Option String
  | list _ => some "list"
  | map _ => some "dict"
  | tuple items => unhashableItem? items
  | redirect _ _ status => unhashable? status
  | config c t r w h =>
    unhashable? c <|> unhashable? t <|> unhashable? r <|> unhashable? w <|> unhashable? h
  | redirectRoute s h status => unhashable? s <|> unhashable? h <|> unhashable? status
  | rewriteRoute s d check => unhashable? s <|> unhashable? d <|> unhashable? check
  | headerRoute s h goOn => unhashable? s <|> unhashable? h <|> unhashable? goOn
  | handleRoute handle => unhashable? handle
  | _ => none

/-- The same for the first of some values that is not hashable. -/
def unhashableItem? : List Value → Option String
  | [] => none
  | v :: vs => unhashable? v <|> unhashableItem? vs

end

mutual

/-- Whether a value can be written: no integer in it has more digits than are written. -/
def isWritable : Value → Bool
  | int n => n.natAbs < Nat.pow 10 maxNumeralLength
  | list items => areWritable items
  | tuple items => areWritable items
  | map entries => areWritableEntries entries
  | redirect _ _ status => isWritable status
  | config c t r w h =>
    isWritable c && isWritable t && isWritable r && isWritable w && isWritable h
  | redirectRoute s h status => isWritable s && isWritable h && isWritable status
  | rewriteRoute s d check => isWritable s && isWritable d && isWritable check
  | headerRoute s h goOn => isWritable s && isWritable h && isWritable goOn
  | handleRoute handle => isWritable handle
  | _ => true

/-- The same for all of some values. -/
def areWritable : List Value → Bool
  | [] => true
  | v :: vs => isWritable v && areWritable vs

/-- The same for all keys and values of some entries. -/
def areWritableEntries : List (Value × Value) → Bool
  | [] => true
  | (k, v) :: entries => isWritable k && isWritable v && areWritableEntries entries

end

/-- An integer or a truth value as the integer that it equals. -/
def asInt? : Value → Option Int
  | bool b => some (if b then 1 else 0)
  | int n => some n
  | _ => none

mutual

/-- Whether two values are the same key. -/
def sameKey : Value → Value → Bool
  | null, null => true
  | text t, text u => t == u
  | float x, float y => x.isEqual y
  | float x, v =>
    match v.asInt? with
    | some n => x.isInteger n
    | none => false
  | v, float x =>
    match v.asInt? with
    | some n => x.isInteger n
    | none => false
  | tuple xs, tuple ys => sameKeys xs ys
  | v, w =>
    match v.asInt?, w.asInt? with
    | some m, some n => m == n
    | _, _ => false

/-- Whether two lists of values are the same keys in order. -/
def sameKeys : List Value → List Value → Bool
  | [], [] => true
  | x :: xs, y :: ys => sameKey x y && sameKeys xs ys
  | _, _ => false

end

/-- Entries with a value assigned to a key: an old key keeps its place and its own
spelling, a new one comes last. -/
def assign (key value : Value) : List (Value × Value) → List (Value × Value)
  | [] => [(key, value)]
  | (k, v) :: entries =>
    if sameKey k key then (k, value) :: entries else (k, v) :: assign key value entries

/-- The map of pairs that are assigned one after the other. -/
def mapOf (pairs : List (Value × Value)) : Value :=
  map (pairs.foldl (fun entries (k, v) => assign k v entries) [])

/-- The value of a text key. -/
def lookup (key : Text) : List (Value × Value) → Option Value
  | [] => none
  | (text t, v) :: entries => if t = key then some v else lookup key entries
  | _ :: entries => lookup key entries

/-- A pair of a list of pairs. -/
def readPair (index : Nat) (v : Value) : Except Fault (Value × Value) :=
  match v.items with
  | .error _ => .error (.notASequence index)
  | .ok [key, value] =>
    match key.unhashable? with
    | some kind => .error (.unhashable kind)
    | none => .ok (key, value)
  | .ok vs => .error (.notAPair index vs.length)

/-- The pairs of a list of pairs whose first has the position `index`. -/
def readPairs (index : Nat) : List Value → Except Fault (List (Value × Value))
  | [] => .ok []
  | v :: vs => do
    let p ← readPair index v
    return p :: (← readPairs (index + 1) vs)

/-- The value as a map: itself if it is one, else the map of a list of pairs. -/
def toMap (v : Value) : Except Fault Value :=
  match v with
  | map entries => .ok (map entries)
  | v => do return mapOf (← readPairs 0 (← v.items))

end Value
end RouteTable
