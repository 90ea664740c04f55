import SitePreview.Text.Basic

/-! Options of a preview document: where its libraries come from, where the root component is
mounted and under which names it is looked for. -/

namespace SitePreview

def defaultRootCandidates : List Text :=
  ["App", "Main", "Page", "Home", "Landing", "Blog", "Component", "Hero", "Layout"]

structure PreviewOptions where
  reactUrl : Text := "https://unpkg.com/react@18/umd/react.development.js"
  reactDomUrl : Text := "https://unpkg.com/react-dom@18/umd/react-dom.development.js"
  babelUrl : Text := "https://unpkg.com/@babel/standalone/babel.min.js"
  tailwindUrl : Text := "https://cdn.tailwindcss.com"
  mountElementId : Text := "root"
  rootCandidates : List Text := defaultRootCandidates
  title : Text := "Preview"
deriving DecidableEq

end SitePreview
