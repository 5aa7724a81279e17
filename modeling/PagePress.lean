import PagePress.Main
import PagePress.Preview
import PagePress.Proofs.Anchoring
import PagePress.Proofs.Autolink.Ending
import PagePress.Proofs.Autolink.Offsets
import PagePress.Proofs.Autolink.Runs
import PagePress.Proofs.Build.HandOver
import PagePress.Proofs.Bundle
import PagePress.Proofs.Command.Build
import PagePress.Proofs.Command.New
import PagePress.Proofs.Command.Scaffold
import PagePress.Proofs.Files.Rooted
import PagePress.Proofs.Files.Runs
import PagePress.Proofs.Guards
import PagePress.Proofs.HeadingIds.Pass
import PagePress.Proofs.Html.Escape
import PagePress.Proofs.Keys
import PagePress.Proofs.Math.Ampersands
import PagePress.Proofs.Math.Braces
import PagePress.Proofs.SelectorLists
import PagePress.Proofs.Slug
import PagePress.Proofs.SlugSearch
import PagePress.Proofs.StageOrder
import PagePress.Proofs.Stylesheet
import PagePress.Proofs.Theme.Registry
import PagePress.Proofs.Words
