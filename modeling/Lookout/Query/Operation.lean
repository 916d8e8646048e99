/-!
The operations that the query language provides besides its definitions, each with a name and the
kinds of its arguments: a value, which is computed before the operation, or a filter.
-/
namespace Lookout.Query

/-- Functions of one binary64 number. -/
inductive UnaryMath where
  | acos | acosh | asin | asinh | atan | atanh | cbrt | cos | cosh | exp | exp10 | exp2 | expm1
  | fabs | gamma | lgamma | log | log10 | log1p | log2 | logb | nearbyint | pow10 | rint
  | significand | sin | sinh | sqrt | tan | tanh | tgamma | trunc
  deriving DecidableEq, Repr

/-- Functions of two binary64 numbers. -/
inductive BinaryMath where
  | atan2 | copysign | drem | fdim | fmax | fmin | fmod | nextafter | nexttoward | pow | scalb
  | hypot
  deriving DecidableEq, Repr

/-- Directions of rounding to a whole number. -/
inductive Rounding where
  | down | nearest | up
  deriving DecidableEq, Repr

/-- Operations. -/
inductive Operation where
  -- streams
  | raise | first | last | limit | skip | inputs | echo
  -- values
  | length | byteLength | keysUnsorted | contains | has | indices | search | pathValues
  | fromJson | toJson
  -- arrays
  | reverse | sort | sortBy | groupBy | uniqueBy | minBy | maxBy | joinTexts
  -- texts
  | explode | implode | trim | trimStart | trimEnd | dropStart | dropEnd | startsWith | endsWith
  | lowerAscii | upperAscii | split | splitMatching | matching | splitAround
  | encodeBase64 | decodeBase64 | escapeHtml | encodeUri | decodeUri | escapeCsv | escapeShell | escapeTabs
  -- numbers
  | round (direction : Rounding)
  | unary (f : UnaryMath)
  | binary (f : BinaryMath)
  | multiplyAdd | frexp | modf | ldexp | ilogb
  -- times
  | now | localTime | formatLocal | formatTime | parseTime | breakDown | toEpoch | toIso | fromIso
  -- the surrounding process
  | environment | halt
  deriving DecidableEq, Repr

namespace Operation

/-- The name of each operation and which of its arguments are values. -/
def table : List (String × List Bool × Operation) := [
  ("error", [], .raise), ("first", [false], .first), ("last", [false], .last),
  ("limit", [true, false], .limit), ("skip", [true, false], .skip), ("inputs", [], .inputs),
  ("debug", [], .echo), ("stderr", [], .echo),
  ("length", [], .length), ("utf8bytelength", [], .byteLength),
  ("keys_unsorted", [], .keysUnsorted), ("contains", [true], .contains), ("has", [true], .has),
  ("indices", [true], .indices), ("bsearch", [true], .search), ("path_values", [], .pathValues),
  ("fromjson", [], .fromJson), ("tojson", [], .toJson),
  ("reverse", [], .reverse), ("sort", [], .sort), ("sort_by", [false], .sortBy),
  ("group_by", [false], .groupBy), ("unique_by", [false], .uniqueBy), ("min_by", [false], .minBy),
  ("max_by", [false], .maxBy), ("join_texts", [true], .joinTexts),
  ("explode", [], .explode), ("implode", [], .implode), ("trim", [], .trim),
  ("ltrim", [], .trimStart), ("rtrim", [], .trimEnd), ("ltrimstr", [true], .dropStart),
  ("rtrimstr", [true], .dropEnd), ("startswith", [true], .startsWith),
  ("endswith", [true], .endsWith), ("ascii_downcase", [], .lowerAscii),
  ("ascii_upcase", [], .upperAscii), ("split", [true], .split),
  ("split_", [true, true], .splitMatching), ("matches", [true, true], .matching),
  ("split_matches", [true, true], .splitAround),
  ("encode_base64", [], .encodeBase64), ("decode_base64", [], .decodeBase64),
  ("escape_html", [], .escapeHtml), ("encode_uri", [], .encodeUri), ("decode_uri", [], .decodeUri),
  ("escape_csv", [], .escapeCsv), ("escape_sh", [], .escapeShell),
  ("escape_tsv", [], .escapeTabs),
  ("floor", [], .round .down), ("round", [], .round .nearest), ("ceil", [], .round .up),
  ("acos", [], .unary .acos), ("acosh", [], .unary .acosh), ("asin", [], .unary .asin),
  ("asinh", [], .unary .asinh), ("atan", [], .unary .atan), ("atanh", [], .unary .atanh),
  ("cbrt", [], .unary .cbrt), ("cos", [], .unary .cos), ("cosh", [], .unary .cosh),
  ("exp", [], .unary .exp), ("exp10", [], .unary .exp10), ("exp2", [], .unary .exp2),
  ("expm1", [], .unary .expm1), ("fabs", [], .unary .fabs), ("gamma", [], .unary .gamma),
  ("lgamma", [], .unary .lgamma), ("log", [], .unary .log), ("log10", [], .unary .log10),
  ("log1p", [], .unary .log1p), ("log2", [], .unary .log2), ("logb", [], .unary .logb),
  ("nearbyint", [], .unary .nearbyint), ("pow10", [], .unary .pow10), ("rint", [], .unary .rint),
  ("significand", [], .unary .significand), ("sin", [], .unary .sin), ("sinh", [], .unary .sinh),
  ("sqrt", [], .unary .sqrt), ("tan", [], .unary .tan), ("tanh", [], .unary .tanh),
  ("tgamma", [], .unary .tgamma), ("trunc", [], .unary .trunc),
  ("atan2", [true, true], .binary .atan2), ("copysign", [true, true], .binary .copysign),
  ("drem", [true, true], .binary .drem), ("fdim", [true, true], .binary .fdim),
  ("fmax", [true, true], .binary .fmax), ("fmin", [true, true], .binary .fmin),
  ("fmod", [true, true], .binary .fmod), ("nextafter", [true, true], .binary .nextafter),
  ("nexttoward", [true, true], .binary .nexttoward), ("pow", [true, true], .binary .pow),
  ("scalb", [true, true], .binary .scalb), ("hypot", [true, true], .binary .hypot),
  ("fma", [true, true, true], .multiplyAdd), ("frexp", [], .frexp), ("modf", [], .modf),
  ("ldexp", [true, true], .ldexp), ("scalbln", [true, true], .ldexp), ("ilogb", [], .ilogb),
  ("now", [], .now), ("localtime", [], .localTime), ("strflocaltime", [true], .formatLocal),
  ("strftime", [true], .formatTime), ("strptime", [true], .parseTime), ("gmtime", [], .breakDown),
  ("mktime", [], .toEpoch), ("todateiso8601", [], .toIso), ("fromdateiso8601", [], .fromIso),
  ("env", [], .environment), ("halt", [], .halt), ("halt", [true], .halt)]

/-- The operation of a name and a number of arguments, with the kinds of its arguments. -/
def find? (name : String) (arity : Nat) : Option (Operation × List Bool) :=
  (table.find? fun (n, params, _) => n == name && params.length == arity).map
    fun (_, params, op) => (op, params)

end Operation

end Lookout.Query
