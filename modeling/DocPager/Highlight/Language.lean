/-!
The languages that snippets can be coloured in, by their names and the extensions of their files.
-/

namespace DocPager.Highlight

def languageNames : List String :=
  [".bash_aliases", ".bash_completions", ".bash_functions", ".bash_login", ".bash_logout",
   ".bash_profile", ".bash_variables", ".bashrc", ".profile", ".textmate_init", "actionscript",
   "adp", "appfile", "applescript", "appraisals", "as", "asa", "asp", "bash", "bat", "berksfile",
   "bib", "bibtex", "brewfile", "bsh", "build", "builder", "c", "c#", "c++", "camlp4", "capfile",
   "cc", "cgi", "cheffile", "cl", "clisp", "clj", "clojure", "cls", "cmd",
   "commands-builtin-shell-bash", "config.ru", "cp", "cpp", "cpy", "cs", "css", "css.erb",
   "css.liquid", "csx", "cxx", "d", "ddl", "deliverfile", "di", "diff", "dml", "dot", "dpr",
   "dtml", "editor", "el", "emakefile", "erb", "erbsql", "erl", "erlang", "fasl", "fastfile",
   "fcgi", "fish", "gemfile", "gemspec", "gnumakefile", "go", "gradle", "groovy", "guardfile",
   "gv", "gvy", "gyp", "gypi", "h", "h++", "haml", "haskell", "hh", "hpp", "hrl", "hs", "htc",
   "htm", "html", "html.erb", "hxx", "inc", "inl", "ipp", "irbrc", "java", "javadoc", "javascript",
   "jbuilder", "js", "js.erb", "json", "jsp", "l", "latex", "lhs", "lisp", "lsp", "ltx", "lua",
   "m", "mak", "make", "makefile", "markdn", "markdown", "matlab", "md", "mdown", "mk", "ml",
   "mli", "mll", "mly", "mm", "mud", "multimarkdown", "objective-c", "objective-c++", "ocaml",
   "ocamllex", "ocamlmakefile", "ocamlyacc", "opml", "p", "pas", "pascal", "patch", "perl", "php",
   "php3", "php4", "php5", "php7", "phps", "phpt", "phtml", "pl", "pm", "pod", "podspec", "prawn",
   "properties", "pxd", "pxd.in", "pxi", "pxi.in", "py", "py3", "pyi", "python", "pyw", "pyx",
   "pyx.in", "r", "rabl", "rails", "rake", "rakefile", "rantfile", "rb", "rbx", "rd", "re", "rest",
   "restructuredtext", "rhtml", "rjs", "rprofile", "rpy", "rs", "rss", "rst", "ruby", "ruby.rail",
   "rust", "rxml", "s", "sass", "sbt", "scala", "scanfile", "scm", "sconscript", "sconstruct",
   "script", "sh", "shell-unix-generic", "shtml", "simplecov", "snakefile", "snapfile", "sql",
   "sql.erb", "ss", "sty", "sublime-build", "sublime-color-scheme", "sublime-commands",
   "sublime-completions", "sublime-keymap", "sublime-macro", "sublime-menu", "sublime-mousemap",
   "sublime-project", "sublime-settings", "sublime-syntax", "sublime-theme", "svg", "t", "tcl",
   "tex", "textile", "thor", "thorfile", "tld", "tmpl", "tpl", "txt", "vagrantfile", "wscript",
   "xhtml", "xml", "xsd", "xslt", "yaml", "yaws", "yml", "zsh"]

/-- Whether a word names a language, upper and lower case being the same. -/
def knowsLanguage (word : String) : Bool :=
  languageNames.contains (String.ofList (word.toList.map Char.toLower))

end DocPager.Highlight
