import Lookout.Query.Run
/-!
Definitions that every query may use, written in the query language itself. Each one may use those
before it.
-/
namespace Lookout.Query.Library

/-- The texts of the definitions. -/
def source : List String := [
  -- constants and kinds
  "def empty: \x7b\x7d[] as $x | .;",
  "def error(f): f | error;",
  "def null: [][0];",
  "def true: 0 == 0;",
  "def false: 0 != 0;",
  "def not: if . then false else true end;",
  "def nan: 0 / 0;",
  "def infinite: 1 / 0;",
  "def isboolean: . == true or . == false;",
  "def isnumber: . > true and . < \"\";",
  "def isstring: . >= \"\" and . < [];",
  "def isarray: . >= [] and . < \x7b\x7d;",
  "def isobject: . >= \x7b\x7d;",
  "def isnan: . < nan and nan < .;",
  "def isinfinite: . == infinite or . == -infinite;",
  "def isfinite: isnumber and (isinfinite | not);",
  "def isnormal: isnumber and ((. == 0 or isnan or isinfinite) | not);",
  "def isvalid(f): try (f | true) catch false;",
  "def abs: if . < 0 then -. else . end;",
  "def type: if . == null then \"null\" elif isboolean then \"boolean\" elif . < \"\" then \"number\" " ++
    "elif . < [] then \"string\" elif . < \x7b\x7d then \"array\" else \"object\" end;",
  -- selection
  "def select(f): if f then . else empty end;",
  "def values: select(. != null);",
  "def nulls: select(. == null);",
  "def booleans: select(isboolean);",
  "def numbers: select(isnumber);",
  "def strings: select(isstring);",
  "def arrays: select(isarray);",
  "def objects: select(isobject);",
  "def iterables: select(. >= []);",
  "def scalars: select(. < []);",
  -- recursion
  "def recurse(f): def rec: ., (f | rec); rec;",
  "def recurse: recurse(.[]?);",
  "def recurse(f; cond): recurse(f | select(cond));",
  "def recurse_down: recurse;",
  "def repeat(f): def rec: f, rec; rec;",
  "def while(cond; f): def rec: if cond then ., (f | rec) else empty end; rec;",
  "def until(cond; f): def rec: if cond then . else f | rec end; rec;",
  "def walk(f): def rec: (.[]? |= rec) | f; rec;",
  -- ranges
  "def range($from; $to; $by): $from | " ++
    "if $by > 0 then while(. < $to; . + $by) elif $by < 0 then while(. > $to; . + $by) " ++
    "else while(. != $to; . + $by) end;",
  "def range($from; $to): range($from; $to; 1);",
  "def range($to): range(0; $to; 1);",
  -- items
  "def map(f): [.[] | f];",
  "def map_values(f): .[] |= f;",
  "def add(f): reduce f as $x (null; . + $x);",
  "def add: add(.[]);",
  "def first: .[0];",
  "def last: .[-1];",
  "def nth(n): .[n];",
  "def nth(n; f): last(limit(n + 1; f));",
  "def isempty(g): first((g | false), true);",
  "def any(g; cond): isempty(first(g | cond or empty)) | not;",
  "def any(cond): any(.[]; cond);",
  "def any: any(.);",
  "def all(g; cond): isempty(first(g | cond and empty));",
  "def all(cond): all(.[]; cond);",
  "def all: all(.);",
  "def in(xs): . as $x | xs | has($x);",
  "def inside(xs): . as $x | xs | contains($x);",
  "def min: min_by(.);",
  "def max: max_by(.);",
  "def unique: unique_by(.);",
  "def del(f): f |= empty;",
  "def flatten: [recurse(arrays[]) | select(isarray | not)];",
  "def flatten($d): if $d > 0 then map(if isarray then flatten($d - 1) else [.] end) | add " ++
    "else . end;",
  "def transpose: [range([.[] | length] | max) as $i | [.[][$i]]];",
  "def index($x): indices($x) | first;",
  "def rindex($x): indices($x) | last;",
  -- objects
  "def keys: keys_unsorted | sort;",
  "def to_entries: [keys[] as $k | \x7bkey: $k, value: .[$k]\x7d];",
  "def from_entries: reduce .[] as $x (\x7b\x7d; . + ($x | \x7b(.key): .value\x7d));",
  "def with_entries(f): to_entries | map(f) | from_entries;",
  "def paths: path_values | .[0];",
  "def paths(f): path_values | select(.[1] | f) | .[0];",
  "def getpath($path): reduce $path[] as $p (.; .[$p]);",
  -- texts
  "def tostring: if isstring then . else tojson end;",
  "def tonumber: if isnumber then . else fromjson end;",
  "def join($s): (.[] |= tostring) | join_texts($s);",
  "def match(re; flags): matches(re; flags)[] | .[0] + \x7bcaptures: .[1:]\x7d;",
  "def match(re): match(re; \"\");",
  "def capture_object: map(select(.name) | \x7b(.name): .string\x7d) | add + \x7b\x7d;",
  "def test(re; flags): matches(re; flags) | length > 0;",
  "def test(re): test(re; \"\");",
  "def scan(re; flags): matches(re; flags)[] | .[0].string;",
  "def scan(re): scan(re; \"\");",
  "def capture(re; flags): matches(re; flags)[] | capture_object;",
  "def capture(re): capture(re; \"\");",
  "def split(re; flags): split_(re; flags + \"g\");",
  "def splits(re; flags): split(re; flags)[];",
  "def splits(re): splits(re; \"\");",
  "def sub(re; f; flags): reduce split_matches(re; flags)[] as $x " ++
    "(\"\"; . + if $x | isstring then $x else $x | capture_object | f end);",
  "def sub(re; f): sub(re; f; \"\");",
  "def gsub(re; f; flags): sub(re; f; \"g\" + flags);",
  "def gsub(re; f): gsub(re; f; \"\");",
  -- formats
  "def @text: tostring;",
  "def @json: tojson;",
  "def @csv: .[] |= (if . == null then \"\" elif isboolean or isnumber then tostring " ++
    "else escape_csv end) | join_texts(\",\");",
  "def @tsv: .[] |= (if . == null then \"\" elif isstring then escape_tsv else tostring end) " ++
    "| join_texts(\"\\t\");",
  "def @html: tostring | escape_html;",
  "def @sh: [if isarray then .[] else . end | if isstring or (. < \"\" | not) then escape_sh " ++
    "else tojson end] | join_texts(\" \");",
  "def @base64: tostring | encode_base64;",
  "def @base64d: tostring | decode_base64;",
  "def @uri: tostring | encode_uri;",
  "def @urid: tostring | decode_uri;",
  -- times and the outside
  "def todate: todateiso8601;",
  "def fromdate: fromdateiso8601;",
  "def date: todate;",
  "def dateadd(u; n): . + n;",
  "def datesub(u; n): . - n;",
  "def input: first(inputs);",
  "def debug(m): (m | debug | empty), .;"]

/-- The definitions; a text that is not one is left out. -/
def definitions : List Definition := (source.filterMap Term.parseDefinitions?).flatten

/-- The names of the definitions and what they stand for, each next to the definitions before. -/
def build : List Definition → Scope → List Binding → Scope × List Binding
  | [], scope, bindings => (scope, bindings)
  | .mk name params body :: rest, scope, bindings =>
    let values := Scope.valueParams params
    let inner := Name.definition name values :: scope
    match Filter.ofTerm? (Scope.addParams inner params) body with
    | some f => build rest inner (.definition values f :: bindings)
    | none => build rest scope bindings

/-- The names of the definitions and their bindings. -/
def built : Scope × List Binding := build definitions [] []

/-- The names that are in scope from the beginning. -/
def scope : Scope := built.1

/-- What those names stand for. -/
def env : Env := ⟨built.2, 0⟩

end Lookout.Query.Library
