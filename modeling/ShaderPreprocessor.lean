import ShaderPreprocessor.Compiler
import ShaderPreprocessor.Main
import ShaderPreprocessor.World
import ShaderPreprocessor.Proofs.Expansion.Activity
import ShaderPreprocessor.Proofs.Expansion.Depth
import ShaderPreprocessor.Proofs.Expansion.Imports
import ShaderPreprocessor.Proofs.Expansion.Meaning
import ShaderPreprocessor.Proofs.Expansion.Success
import ShaderPreprocessor.Proofs.Expansion.Steps
import ShaderPreprocessor.Proofs.Expansion.Cycles
import ShaderPreprocessor.Proofs.Expansion.Independence
import ShaderPreprocessor.Proofs.Text.Encoding
import ShaderPreprocessor.Proofs.Text.EndedLines
import ShaderPreprocessor.Proofs.Text.Splits
import ShaderPreprocessor.Proofs.Directive.Keywords
import ShaderPreprocessor.Proofs.Directive.Extension
import ShaderPreprocessor.Proofs.Expansion.Output
import ShaderPreprocessor.Proofs.Loading.Traversal
import ShaderPreprocessor.Proofs.Loading.Registration
import ShaderPreprocessor.Proofs.Loading.FileNames
import ShaderPreprocessor.Proofs.Loading.Termination
import ShaderPreprocessor.Proofs.Loading.Dependencies
import ShaderPreprocessor.Proofs.Loading.Closure
import ShaderPreprocessor.Proofs.Loading.Rollback
import ShaderPreprocessor.Proofs.Loading.ImportPaths
import ShaderPreprocessor.Proofs.Loading.DepthFirst
import ShaderPreprocessor.Proofs.Loading.Exploration
import ShaderPreprocessor.Proofs.Loading.LoadOrder
import ShaderPreprocessor.Proofs.Expansion.Agreement
import ShaderPreprocessor.Proofs.Loading.Reordering
import ShaderPreprocessor.Proofs.Expansion.Faults
import ShaderPreprocessor.Proofs.Library.History
import ShaderPreprocessor.Proofs.Library.Handles
import ShaderPreprocessor.Proofs.Expansion.Lookups
import ShaderPreprocessor.Proofs.Files.Trees
import ShaderPreprocessor.Proofs.Files.Writing
import ShaderPreprocessor.Proofs.Loading.Assembly
import ShaderPreprocessor.Proofs.CommandLine.AllOrNothing
import ShaderPreprocessor.Proofs.Text.Utf8
import ShaderPreprocessor.Proofs.Expansion.Characters
import ShaderPreprocessor.Proofs.Path.Names
import ShaderPreprocessor.Proofs.CommandLine.Arguments
import ShaderPreprocessor.Proofs.CommandLine.Rerun
import ShaderPreprocessor.Proofs.Expansion.TestedNames
import ShaderPreprocessor.Proofs.Library.Locality
import ShaderPreprocessor.Proofs.Library.Isolation
import ShaderPreprocessor.Proofs.Directive.Grammar
import ShaderPreprocessor.Proofs.Expansion.Passage
import ShaderPreprocessor.Proofs.Expansion.Concatenation
import ShaderPreprocessor.Proofs.Expansion.Substitution
import ShaderPreprocessor.Proofs.Loading.Interruption
import ShaderPreprocessor.Proofs.Loading.Guarded
import ShaderPreprocessor.Proofs.Loading.Unwinding
import ShaderPreprocessor.Proofs.Directive.RoundTrip
import ShaderPreprocessor.Proofs.Directive.DirectiveLine
import ShaderPreprocessor.Proofs.Expansion.Rendering
import ShaderPreprocessor.Proofs.CommandLine.Exits
import ShaderPreprocessor.Proofs.Loading.Confinement
import ShaderPreprocessor.Proofs.Compiler.Sources
import ShaderPreprocessor.Proofs.Compiler.Releases
import ShaderPreprocessor.Proofs.Shader.Reading
import ShaderPreprocessor.Proofs.Shader.Words
import ShaderPreprocessor.Proofs.Path.Extensions
