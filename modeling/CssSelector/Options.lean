/-
  `Options` — how the case of names is treated.

  Names of elements and attributes are folded to lower case unless the document
  is XML; each of the two may be decided on its own.
-/
import CssSelector.Text.Lowercase

namespace CssSelector

/-- How the case of names is treated. -/
structure Options where
  /-- Whether names of elements are folded, if that is decided on its own. -/
  tags : Option Bool := none
  /-- Whether names of attributes are folded, if that is decided on its own. -/
  attributeNames : Option Bool := none
  /-- The document is XML: what is not decided on its own is not folded. -/
  xmlMode : Bool := false
  deriving DecidableEq, Repr

namespace Options

/-- The options for XML documents. -/
def xml : Options where
  xmlMode := true

/-- The same options, with the folding of element names decided. -/
def withTags (o : Options) (fold : Bool) : Options :=
  { o with tags := some fold }

/-- The same options, with the folding of attribute names decided. -/
def withAttributeNames (o : Options) (fold : Bool) : Options :=
  { o with attributeNames := some fold }

/-- Names of elements are folded. -/
def foldsTags (o : Options) : Bool :=
  o.tags.getD (!o.xmlMode)

/-- Names of attributes are folded. -/
def foldsAttributeNames (o : Options) : Bool :=
  o.attributeNames.getD (!o.xmlMode)

/-- The name of an element under the options. -/
def tagName (o : Options) (name : Text) : Text :=
  if o.foldsTags then name.lowercase else name

/-- The name of an attribute under the options. -/
def attributeName (o : Options) (name : Text) : Text :=
  if o.foldsAttributeNames then name.lowercase else name

end Options

end CssSelector
