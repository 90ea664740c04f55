import SitePreview.FileSet
import SitePreview.Json.Printer
import SitePreview.Text.Utf8
import SitePreview.Digest.Sha256

/-! The canonical form of a file set: a version mark and the JSON array of all pairs of path and
content in the order of paths. The hash of a file set is the start of the digest of this form. -/

namespace SitePreview

namespace FileSet

/-- The canonical form as text. -/
def canonicalText (files : FileSet) : Text :=
  let pairs := files.sortedPaths.map fun p => Json.ofTexts [p, files.content p]
  "livepreview-snapshot-v1:" ++ (Json.array pairs).toText .canonical

/-- The canonical form, or the surrogates in it. -/
def canonicalBytes (files : FileSet) : Except Text.EncodeError (List UInt8) :=
  files.canonicalText.toUtf8

/-- The number of hexadecimal digits of a hash. -/
def hashLength : Nat := 16

/-- The hash of the canonical form, or the surrogates in it. -/
def hash (files : FileSet) : Except Text.EncodeError Text :=
  files.canonicalBytes.map fun bs => (Digest.hexDigest (Digest.sha256 bs)).take hashLength

end FileSet

end SitePreview
