import ApiLint.Guideline.PluralNames
import ApiLint.Guideline.UnversionedUris
import ApiLint.Registry

/-!
# The bundled guidelines

The rules that come with the linter, all of one rule set.

## Main definitions

* `Guideline.ruleSet`: the rule set.
* `Guideline.registry`: the registry of the bundled rules.
-/

namespace ApiLint.Guideline

/-- The rule set of the bundled rules. -/
def ruleSet : RuleSet where
  id := "zalando"
  version := "1.0"
  urlTemplate := "https://opensource.zalando.com/restful-api-guidelines/#\x7bid\x7d"

/-- Array names should be plural; the setting `whitelist` exempts names. -/
def pluralNames : RuleType where
  name := "PluralizeNamesForArraysRule"
  descriptor := ⟨"120", .should, "Array names should be pluralized", ruleSet⟩
  configured := some fun settings => do
    let names ← PluralNames.whitelist settings
    return PluralNames.rule names

/-- URIs should carry no version. -/
def unversionedUris : RuleType where
  name := "NoVersionInUriRule"
  descriptor := ⟨"115", .must, "Do not use URI versioning", ruleSet⟩
  plain := some (.ok UnversionedUris.rule)

/-- The registry of the bundled rules. -/
def registry : Registry :=
  ⟨[pluralNames, unversionedUris]⟩

end ApiLint.Guideline
