import RowScan.Json.Decode
import RowScan.Json.Tree
import RowScan.Summary

/-!
The JSON forms of layouts, trace records, comparisons and summaries. Writing names every field;
reading takes the fields by name or in order, and only the flag of whole rows may be left out.
-/

namespace RowScan

namespace Layout

def jsonNames : List String :=
  ["cachelines_per_row", "density", "address_slots_per_row", "reserved_rows"]

def ofJson? (json : JsonValue) : Option (Layout Float) := do
  match ← json.slots? jsonNames with
  | [some cachelines, some density, some slots, some reserved] =>
    return ⟨← cachelines.word32?, ← density.float?, ← slots.word32?, ← reserved.word32?⟩
  | _ => none

def toJson (layout : Layout Float) : JsonTree :=
  .object [("cachelines_per_row", .ofNat layout.cachelinesPerRow.toNat),
    ("density", .ofFloat layout.density),
    ("address_slots_per_row", .ofNat layout.addressSlotsPerRow.toNat),
    ("reserved_rows", .ofNat layout.reservedRows.toNat)]

end Layout

namespace Timings

def jsonNames : List String := ["parse", "plan", "matching"]

def ofJson? (json : JsonValue) : Option Timings := do
  match ← json.slots? jsonNames with
  | [some parse, some plan, some matching] =>
    return ⟨← parse.text?, ← plan.text?, ← matching.text?⟩
  | _ => none

def toJson (timings : Timings) : JsonTree :=
  .object [("parse", .string timings.parse), ("plan", .string timings.plan),
    ("matching", .string timings.matching)]

end Timings

namespace TermRecord

def jsonNames : List String :=
  ["line", "term", "row_count", "matches", "quadwords_touched", "actual_cachelines", "timings"]

def ofJson? (json : JsonValue) : Option TermRecord := do
  match ← json.slots? jsonNames with
  | [some line, some term, some rows, some matched, some quadwords, some cachelines,
      some timings] =>
    return ⟨← line.natural? Natural.limit64, ← term.text?, ← rows.word64?, ← matched.word64?,
      ← quadwords.word64?, ← cachelines.word64?, ← Timings.ofJson? timings⟩
  | _ => none

def toJson (record : TermRecord) : JsonTree :=
  .object [("line", .ofNat record.line), ("term", .string record.term),
    ("row_count", .ofNat record.rows.toNat), ("matches", .ofNat record.matched.toNat),
    ("quadwords_touched", .ofNat record.quadwords.toNat),
    ("actual_cachelines", .ofNat record.cachelines.toNat), ("timings", record.timings.toJson)]

end TermRecord

namespace Comparison

def jsonNames : List String :=
  ["term", "position", "quadwords_touched", "actual_cachelines", "expected_cachelines",
    "whole_rows"]

def flag? : Option JsonValue → Option Bool
  | none => some false
  | some value => value.bool?

def ofJson? (json : JsonValue) : Option (Comparison Float) := do
  match ← json.slots? jsonNames with
  | [some term, some position, some quadwords, some cachelines, some expected, wholeRows] =>
    return ⟨← term.text?, ← position.natural? Natural.limit64, ← quadwords.word64?,
      ← cachelines.word64?, ← expected.float?, ← flag? wholeRows⟩
  | _ => none

def toJson (comparison : Comparison Float) : JsonTree :=
  .object [("term", .string comparison.term), ("position", .ofNat comparison.position),
    ("quadwords_touched", .ofNat comparison.quadwords.toNat),
    ("actual_cachelines", .ofNat comparison.cachelines.toNat),
    ("expected_cachelines", .ofFloat comparison.expected),
    ("whole_rows", .ofBool comparison.wholeRows)]

end Comparison

namespace Summary

def jsonNames : List String :=
  ["terms", "total_quadwords", "total_actual_cachelines", "total_expected_cachelines",
    "mean_absolute_error", "root_mean_square_error", "expected_to_actual_ratio"]

def ofJson? (json : JsonValue) : Option (Summary Float) := do
  match ← json.slots? jsonNames with
  | [some terms, some quadwords, some cachelines, some expected, some absolute, some square,
      some ratio] =>
    return ⟨← terms.natural? Natural.limit64, ← quadwords.word64?, ← cachelines.word64?,
      ← expected.float?, ← absolute.float?, ← square.float?, ← ratio.float?⟩
  | _ => none

def toJson (summary : Summary Float) : JsonTree :=
  .object [("terms", .ofNat summary.terms),
    ("total_quadwords", .ofNat summary.totalQuadwords.toNat),
    ("total_actual_cachelines", .ofNat summary.totalCachelines.toNat),
    ("total_expected_cachelines", .ofFloat summary.totalExpected),
    ("mean_absolute_error", .ofFloat summary.meanAbsoluteError),
    ("root_mean_square_error", .ofFloat summary.rootMeanSquareError),
    ("expected_to_actual_ratio", .ofFloat summary.ratio)]

def fileText (summary : Summary Float) : String := summary.toJson.pretty

end Summary

end RowScan
