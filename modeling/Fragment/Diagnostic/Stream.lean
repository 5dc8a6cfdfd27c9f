import Fragment.Diagnostic.Line
import Fragment.Text.Decode
import Fragment.Text.Line
/-!
The diagnostics of a whole error stream, in the order in which they were printed. Lines that are
none (excerpts, carets, headers) are skipped.
-/
namespace Fragment.Diagnostic

def ofText (text : List Char) : List Diagnostic := (Text.lines text).filterMap ofLine?

def parse (text : String) : List Diagnostic := ofText text.toList

def ofOctets (octets : Octets) : List Diagnostic := ofText (Utf8.lossyChars octets)

end Fragment.Diagnostic
