/-
This file holds the module that generated code imports its escaper from.
-/

namespace HtmlTemplate.Escape

/-- The name of the file that the module is written to. -/
def moduleFile : String := "sterilization.js"

def moduleLines : List String :=
  ["// Runtime escaper imported by compiled Litewing templates.",
   "// Mirrors litewing_varnish::escape; both are checked against escape_cases.json",
   "// (`node check_cases.mjs` here, `cargo test -p litewing_varnish` for Rust).",
   "",
   "export default function escape(input) \x7b",
   "  if (input == null) return '';",
   "",
   "  let s = String(input);",
   "",
   "  // Composed form first so decomposed look-alikes cannot survive encoding.",
   "  s = s.normalize('NFC');",
   "",
   "  // Collapse pre-encoded payloads to their literal characters.",
   "  s = s.replace(/&#([0-9]+);?/g, (_, code) => fromCodePoint(parseInt(code, 10)));",
   "  s = s.replace(/&#[xX]([0-9a-fA-F]+);?/g, (_, hex) => fromCodePoint(parseInt(hex, 16)));",
   "  s = s.replace(/&(amp|lt|gt|quot|apos);/g, (_, name) => NAMED[name]);",
   "",
   "  // Ampersand first, everything after it produces entities.",
   "  return s",
   "    .replace(/&/g, '&amp;')",
   "    .replace(/</g, '&lt;')",
   "    .replace(/>/g, '&gt;')",
   "    .replace(/\"/g, '&quot;')",
   "    .replace(/'/g, '&#39;');",
   "\x7d",
   "",
   "const NAMED = \x7b amp: '&', lt: '<', gt: '>', quot: '\"', apos: \"'\" \x7d;",
   "",
   "function fromCodePoint(code) \x7b",
   "  if (!(code <= 0x10ffff) || (code >= 0xd800 && code <= 0xdfff)) return '\\uFFFD';",
   "  return String.fromCodePoint(code);",
   "\x7d"]

/-- The text of the module. -/
def moduleText : String := String.join (moduleLines.map (· ++ "\n"))

end HtmlTemplate.Escape
