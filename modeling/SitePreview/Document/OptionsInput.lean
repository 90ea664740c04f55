import SitePreview.Document.Options
import SitePreview.Validation.Field

/-! Options of a preview document from outside: every one may be left out, and others are
ignored. -/

namespace SitePreview.PreviewOptions

def check (members : List (Text × Json)) : Checked PreviewOptions :=
  let default : PreviewOptions := {}
  PreviewOptions.mk <$> Checked.member members "react_url" default.reactUrl Checked.text
    <*> Checked.member members "react_dom_url" default.reactDomUrl Checked.text
    <*> Checked.member members "babel_url" default.babelUrl Checked.text
    <*> Checked.member members "tailwind_url" default.tailwindUrl Checked.text
    <*> Checked.member members "mount_element_id" default.mountElementId Checked.text
    <*> Checked.member members "root_candidates" default.rootCandidates Checked.textTuple
    <*> Checked.member members "title" default.title Checked.text

end SitePreview.PreviewOptions
