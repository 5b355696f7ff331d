import TypedMarkup.Vocabulary.Data.HtmlAttributes
import TypedMarkup.Vocabulary.Data.HtmlElements
import TypedMarkup.Vocabulary.Data.HtmlEvents
import TypedMarkup.Vocabulary.Data.SvgAttributes
import TypedMarkup.Vocabulary.Data.SvgElements
import TypedMarkup.Vocabulary.Data.SvgEvents

namespace TypedMarkup

def Vocabulary.builtin : Vocabulary where
  htmlAttributes := .ofList "html attribute" htmlAttributeEntries
  svgAttributes := .ofList "svg attribute" svgAttributeEntries
  htmlEvents := .ofList "html event" htmlEventEntries
  svgEvents := .ofList "svg event" svgEventEntries

def builtinDefinitions : List Definition :=
  htmlDefinitions ++ svgDefinitions

def Table.builtin (v : Vocabulary) : Except MissingKey Table :=
  (Definition.resolveAll v builtinDefinitions).map Table.mk

end TypedMarkup
